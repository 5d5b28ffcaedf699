import ModelContext.Client.Transport
import ModelContext.Number.Integer
import ModelContext.Protocol.Content
import ModelContext.Protocol.Method
import ModelContext.Protocol.Message
import ModelContext.Server.Basic
import ModelContext.Text.Quoted

/-!
# The client's session

A session numbers its requests by 64-bit integers, which go on with the least after the greatest. It holds
the server's answer to the handshake, and makes no other call before that. Walks over paged listings are
given a budget of pages, since a server may never come to an end; they have no outcome if the budget is too
small.
-/

namespace ModelContext

/-- The versions of the protocol that a client accepts from a server. -/
def acceptedVersions : List String :=
  ["2024-11-05", "2025-03-26", "2025-06-18"]

/-- A session over a transport with the state `σ`. -/
structure Session (σ : Type) where
  nextId : Int64
  server : Option InitializeResult
  link : σ

namespace Session

variable {σ α : Type}

/-- A session that has not said anything. -/
def start (link : σ) : Session σ :=
  { nextId := 1, server := none, link }

/-- The error that an error member tells of; parts that are missing or of another type are zero, empty
and absent. -/
def errorOf (member : Json) : ClientError :=
  .rpc (((member.get? "code").bind Json.int64?).getD 0) (((member.get? "message").bind Json.str?).getD "")
    (member.get? "data")

/-- The result in the answer to a request: there is an answer, it has the request's id, no error, and a
result. -/
def resultOf (id : Int) (method : String) (answer : Option Json) : Except ClientError Json :=
  match answer with
  | none => .error (.protocol ("no response to " ++ method))
  | some answer =>
    if answer.get? "id" ≠ some (.int id) then
      .error (.protocol ("response id does not match request " ++ decimalText id))
    else match answer.get? "error", answer.get? "result" with
      | some member, _ => .error (errorOf member)
      | none, some result => .ok result
      | none, none => .error (.protocol (method ++ " response has no result"))

/-- Reads the result in the answer to a request. -/
def readAnswer (id : Int) (method : String) (read : Json → Option α) :
    Except ClientError (Option Json) → Except ClientError α
  | .error e => .error e
  | .ok answer =>
    match resultOf id method answer with
    | .error e => .error e
    | .ok result =>
      match read result with
      | some value => .ok value
      | none => .error .json

/-- Sends a request under the next id and reads its result. -/
def send (t : Transport σ) (method : String) (params : Option Json) (read : Json → Option α)
    (s : Session σ) : Except ClientError α × Session σ :=
  let id := s.nextId.toInt
  let (answer, link) := t.send (requestJson (.int id) method params) s.link
  (readAnswer id method read answer, { s with nextId := s.nextId + 1, link })

/-- Sends a request, if the handshake is done. -/
def request (t : Transport σ) (method : String) (params : Option Json) (read : Json → Option α)
    (s : Session σ) : Except ClientError α × Session σ :=
  if s.server.isNone then (.error .notInitialized, s) else s.send t method params read

/-- What a client says in the handshake. -/
def handshakeParams : Json :=
  .obj
    [("capabilities", .obj []),
     ("clientInfo", (Implementation.plain Server.program Server.programVersion).toJson),
     ("protocolVersion", .str Server.protocolVersion)]

/-- Does the handshake. The server's answer is kept once its version is accepted and the server was
told so. -/
def handshake (t : Transport σ) (s : Session σ) : Except ClientError InitializeResult × Session σ :=
  match s.send t Method.handshake.name (some handshakeParams) InitializeResult.ofJson? with
  | (.error e, s) => (.error e, s)
  | (.ok result, s) =>
    if result.protocolVersion ∈ acceptedVersions then
      match t.send (notificationJson "notifications/initialized") s.link with
      | (.error e, link) => (.error e, { s with link })
      | (.ok _, link) => (.ok result, { s with server := some result, link })
    else (.error (.protocol ("unsupported protocol version " ++ result.protocolVersion)), s)

def ping (t : Transport σ) (s : Session σ) : Except ClientError Unit × Session σ :=
  s.request t Method.ping.name none fun v => v.expand?.map fun _ => ()

/-- The parameters that ask for the page at a cursor. -/
def cursorParams (cursor : Option String) : Option Json :=
  cursor.map fun cursor => .obj [("cursor", .str cursor)]

/-- Asks for one page of a listing. -/
def page (t : Transport σ) (listing : Listing) (cursor : Option String) (s : Session σ) :
    Except ClientError (Page listing.Item) × Session σ :=
  s.request t listing.methodName (cursorParams cursor) listing.pageOfJson?

def repeatedCursor (listing : Listing) (cursor : String) : ClientError :=
  .protocol (listing.methodName ++ " repeated cursor " ++ Text.quote cursor)

/-- Follows the cursors from page to page and gathers the items. A cursor that was handed out before
ends the walk. -/
def walk (t : Transport σ) (listing : Listing) (seen : List String) (cursor : Option String) :
    (budget : Nat) → Session σ → Option (Except ClientError (List listing.Item) × Session σ)
  | 0, _ => none
  | budget + 1, s =>
    match s.page t listing cursor with
    | (.error e, s) => some (.error e, s)
    | (.ok page, s) =>
      match page.nextCursor with
      | none => some (.ok page.items, s)
      | some next =>
        if next ∈ seen then some (.error (repeatedCursor listing next), s)
        else (walk t listing (next :: seen) (some next) budget s).map fun (rest, s) =>
          (rest.map (page.items ++ ·), s)

/-- All items of a listing. -/
def listAll (t : Transport σ) (listing : Listing) (budget : Nat) (s : Session σ) :
    Option (Except ClientError (List listing.Item) × Session σ) :=
  s.walk t listing [] none budget

/-- Everything that a server offers. -/
structure Capabilities where
  prompts : List Prompt
  resources : List Resource
  templates : List ResourceTemplate
  tools : List Tool
  deriving DecidableEq

/-- Goes on with a value, if there is one. -/
def andThen {β : Type} (outcome : Option (Except ClientError α × Session σ))
    (next : α → Session σ → Option (Except ClientError β × Session σ)) :
    Option (Except ClientError β × Session σ) :=
  outcome.bind fun
    | (.error e, s) => some (.error e, s)
    | (.ok a, s) => next a s

/-- Lists everything, one listing after the other. -/
def listCapabilities (t : Transport σ) (budget : Nat) (s : Session σ) :
    Option (Except ClientError Capabilities × Session σ) :=
  andThen (s.listAll t .prompts budget) fun prompts s =>
  andThen (s.listAll t .resources budget) fun resources s =>
  andThen (s.listAll t .templates budget) fun templates s =>
  andThen (s.listAll t .tools budget) fun tools s =>
  some (.ok { prompts, resources, templates, tools }, s)

def callTool (t : Transport σ) (name : String) (arguments : Json) (s : Session σ) :
    Except ClientError CallToolResult × Session σ :=
  s.request t Method.callTool.name (some (.obj [("arguments", arguments), ("name", .str name)]))
    CallToolResult.ofJson?

def readResource (t : Transport σ) (uri : String) (s : Session σ) :
    Except ClientError ReadResourceResult × Session σ :=
  s.request t Method.readResource.name (some (.obj [("uri", .str uri)])) ReadResourceResult.ofJson?

/-- Ends the session and then the transport under it. -/
def close (t : Transport σ) (s : Session σ) : Except ClientError Unit × Session σ :=
  let (outcome, link) := t.close s.link
  (outcome, { s with server := none, link })

end Session
end ModelContext
