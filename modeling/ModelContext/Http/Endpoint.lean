import ModelContext.Http.Message
import ModelContext.Http.Sessions
import ModelContext.Json.Reader
import ModelContext.Server.Basic

/-!
# The endpoint of the protocol

One message or batch is posted at a time, in a body of limited length. A single handshake that succeeds
opens a session, whose id every later request must carry until a client deletes the session. A reply is
plain JSON, or one server-sent event for clients that accept those.

What a request does is a `Plan`, so that its one use of the session store is in plain sight.
-/

namespace ModelContext

/-- The refusal as the body of a response, in the order in which its members are declared. -/
def Refusal.response : Refusal → Logged Http.Response
  | .badRequest code reason => pure (body 400 code reason (.obj []))
  | .unauthorized code reason => pure (body 401 code reason (.obj []))
  | .notFound code reason details => pure (body 404 code reason details)
  | .internal code reason => do
    Logged.emit (.httpFailed reason)
    pure (body 500 code "internal server error" (.obj []))
where
  body (status : Nat) (code reason : String) (details : Json) : Http.Response :=
    .json status (Json.recordText [("code", .str code), ("message", .str reason), ("details", details)])

namespace Http

/-- The header that carries the id of a session. -/
def sessionHeader : String := "mcp-session-id"

def eventStream : String := "text/event-stream"

/-- Does a client take event streams? All its accept headers count, as far as they are texts, and
each may list several types. -/
def acceptsEventStream (accepted : List Bytes) : Bool :=
  ((accepted.filterMap headerText?).flatMap fun text => Text.splitOn ',' text.toList).any fun part =>
    eventStream.toList.isPrefixOf (Text.strip Text.isBlank part)

/-- A single handshake, told by its method alone. -/
def opensSession (message : Json) : Bool :=
  message.get? "method" == some (.str Method.handshake.name)

/-- The session that a request names, without blanks around it. -/
def sessionOf? (headers : List Header) : Option String :=
  (firstText? headers sessionHeader).bind fun text =>
    let id := Text.trim text
    if id.isEmpty then none else some id

def missingSession : Refusal :=
  .badRequest "missing_session" "Mcp-Session-Id header is required"

def unknownSession (id : String) : Refusal :=
  .notFound "session_not_found" "unknown or expired session" (.obj [("session_id", .str id)])

/-- A message as one server-sent event. -/
def eventText (message : Json) : String :=
  "event: message\ndata: " ++ message.text ++ "\n\n"

/-- A reply in the form that the client takes. -/
def replyResponse (reply : Json) (streaming : Bool) : Response :=
  if streaming then
    { status := 200
      headers := [.ofText "content-type" eventStream, .ofText "cache-control" "no-cache"]
      body := Bytes.ofText (eventText reply) }
  else .json 200 reply.text

/-- What a request does: answer at once, or use the session store once and then answer. -/
inductive Plan where
  | done (answer : Logged Response)
  | ask (call : StoreCall) (next : call.Answer → Logged Response)

namespace Plan

/-- Carries out a plan. -/
def run (ids : SessionIds) (store : SessionStore) : Plan → Logged Response × SessionStore
  | done answer => (answer, store)
  | ask call next => (next (store.perform ids call).1, (store.perform ids call).2)

/-- The plan with its answer changed. -/
def map (f : Logged Response → Logged Response) : Plan → Plan
  | done answer => done (f answer)
  | ask call next => ask call fun result => f (next result)

end Plan

/-- The response to a message in an open session. -/
def dispatch (server : Server) (message : Json) (streaming : Bool) : Logged Response := do
  match ← server.answer message with
  | none => pure (.bare 202)
  | some reply => pure (replyResponse reply streaming)

/-- The response to a handshake that opened a session. It is refused if the id cannot stand in a header. -/
def openedResponse (reply : Json) (streaming : Bool) (id : String) : Logged Response :=
  if (Bytes.ofText id).all isHeaderByte then do
    Logged.emit (.sessionOpened id)
    pure ((replyResponse reply streaming).withHeader sessionHeader id)
  else (Refusal.fault "session id is not a valid header value: failed to parse header value").response

/-- Answers a handshake, which needs no session and opens one if its reply is a result. -/
def planHandshake (server : Server) (message : Json) (streaming : Bool) : Plan :=
  let answer := server.answer message
  match answer.value with
  | some reply =>
    if isErrorReply reply then .done (dispatch server message streaming)
    else .ask .create fun id => do
      let _ ← answer
      openedResponse reply streaming id
  | none => .done (dispatch server message streaming)

/-- The most bytes that a posted body may have. -/
def bodyLimit : Nat := 2097152

/-- The answer to a longer body, which is not read to its end. -/
def bodyTooLong : Response :=
  { status := 413
    headers := [.ofText "content-type" "text/plain; charset=utf-8"]
    body := Bytes.ofText "Failed to buffer the request body: length limit exceeded" }

/-- Answers a body that was read. -/
def planBody (server : Server) (request : Request) : Plan :=
  let streaming := acceptsEventStream (values request.headers "accept")
  match Json.parseBytes? request.body with
  | none => .done (pure (replyResponse (RpcFault.parseError.reply none none) streaming))
  | some message =>
    if opensSession message then planHandshake server message streaming
    else match sessionOf? request.headers with
      | none => .done missingSession.response
      | some id => .ask (.contains id) fun there =>
        if there then dispatch server message streaming else (unknownSession id).response

/-- Answers a posted body, unless it is too long. -/
def planPost (server : Server) (request : Request) : Plan :=
  if request.body.length ≤ bodyLimit then planBody server request else .done (pure bodyTooLong)

/-- Closes the session that a request names. -/
def planDelete (request : Request) : Plan :=
  match sessionOf? request.headers with
  | none => .done missingSession.response
  | some id => .ask (.remove id) fun there =>
    if there then do
      Logged.emit (.sessionClosed id)
      pure (.bare 204)
    else (unknownSession id).response

end Http
end ModelContext
