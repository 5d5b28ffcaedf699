import ModelContext.Client.EventStream
import ModelContext.Http.Router

/-!
# A server behind HTTP

Every message is posted to one endpoint. The client carries the session that the server hands out, and
its token if it has one, and deletes the session when it closes.
-/

namespace ModelContext

open Http

/-- What an HTTP library makes of a request that it is given: the response that it ends with, or nothing if it
fails. Whatever it does on the way, such as following redirects with further requests, is part of the
exchange. -/
structure Wire (ω : Type) where
  exchange : Request → ω → Option Response × ω

namespace Wire

/-- The wire to a router, which redirects nothing. -/
def toRouter (router : Router) : Wire SessionStore where
  exchange request store :=
    let (answer, store) := router.handle store request
    (some answer.value, store)

/-- The wire on which no connection is made. -/
def cut {ω : Type} : Wire ω where
  exchange _ s := (none, s)

end Wire

/-- Where a client posts and with which token. -/
structure WebClient where
  /-- The path of the endpoint, if its address can be used. -/
  endpoint : Option String
  token : Option String
  deriving DecidableEq

/-- What the client of a web server keeps: the session that was handed out, and the wire. -/
structure WebLink (ω : Type) where
  session : Option String
  wire : ω

namespace WebClient

/-- A header as the server gets it. -/
def sentHeader (name : String) (value : Bytes) : Header :=
  ({ name, value } : Header).received

/-- The authorization header, if there is a token; an error if the token cannot stand in a header. -/
def authorization (client : WebClient) : Except ClientError (List Header) :=
  match client.token with
  | none => .ok []
  | some token =>
    let value := Bytes.ofText ("Bearer " ++ token)
    if value.all isHeaderByte then .ok [sentHeader "authorization" value] else .error .http

def sessionHeaders (session : Option String) : List Header :=
  (session.map fun id => sentHeader sessionHeader (Bytes.ofText id)).toList

/-- The request that posts a message. -/
def post (client : WebClient) (session : Option String) (message : Json) : Except ClientError Request :=
  match client.endpoint, client.authorization with
  | none, _ => .error .http
  | _, .error e => .error e
  | some path, .ok authorization =>
    .ok
      { method := "POST", target := path, body := Bytes.ofText message.text
        headers :=
          [.ofText "accept" "application/json, text/event-stream", .ofText "content-type" "application/json"] ++
            sessionHeaders session ++ authorization }

/-- The request that deletes a session. -/
def delete (client : WebClient) (session : String) : Except ClientError Request :=
  match client.endpoint, client.authorization with
  | none, _ => .error .http
  | _, .error e => .error e
  | some path, .ok authorization =>
    .ok
      { method := "DELETE", target := path, body := []
        headers := [.ofText "accept" "*/*"] ++ sessionHeaders (some session) ++ authorization }

/-- Statuses without a body to read. -/
def isBodiless (status : Nat) : Bool :=
  status == 202 || status == 204

/-- The session after a response: the one that it names, or else the one before. -/
def sessionAfter (session : Option String) (response : Response) : Option String :=
  if response.isSuccess then (firstText? response.headers sessionHeader) <|> session else session

/-- The answer in a response. -/
def answerOf (response : Response) : Except ClientError (Option Json) :=
  if response.isSuccess = false then .error (.status response.status)
  else if isBodiless response.status then .ok none
  else
    match firstText? response.headers "content-type" with
    | some type =>
      if eventStream.toList.isPrefixOf type.toList then (messageOf response.body.toTextLossy).map some
      else plain response
    | none => plain response
where
  plain (response : Response) : Except ClientError (Option Json) :=
    match Json.parseBytes? response.body with
    | some v => .ok (some v)
    | none => .error .http

variable {ω : Type}

/-- Posts a message and reads the answer. -/
def send (client : WebClient) (wire : Wire ω) (message : Json) (link : WebLink ω) :
    Except ClientError (Option Json) × WebLink ω :=
  match client.post link.session message with
  | .error e => (.error e, link)
  | .ok request =>
    match wire.exchange request link.wire with
    | (none, w) => (.error .http, { link with wire := w })
    | (some response, w) =>
      let response := response.received
      (answerOf response, { session := sessionAfter link.session response, wire := w })

/-- The end of a session as its server answers it. A server may not let clients end sessions. -/
def closeOutcome (response : Response) : Except ClientError Unit :=
  if response.isSuccess ∨ response.status = 405 then .ok () else .error (.status response.status)

/-- Deletes the session, if there is one, and forgets it. The wire is given one request for that. -/
def close (client : WebClient) (wire : Wire ω) (link : WebLink ω) : Except ClientError Unit × WebLink ω :=
  match link.session with
  | none => (.ok (), link)
  | some session =>
    match client.delete session with
    | .error e => (.error e, { link with session := none })
    | .ok request =>
      match wire.exchange request link.wire with
      | (none, w) => (.error .http, { session := none, wire := w })
      | (some response, w) => (closeOutcome response, { session := none, wire := w })

/-- The transport of a client over a wire. -/
def transport (client : WebClient) (wire : Wire ω) : Transport (WebLink ω) where
  send := client.send wire
  close := client.close wire

end WebClient
end ModelContext
