import ModelContext.Protocol.Method
import ModelContext.Server.Greetings
import ModelContext.Server.Redaction
import ModelContext.Server.Tools
import ModelContext.Text.Blank

/-!
# The server

A server answers one message at a time, or a batch of them. Requests are answered, notifications are
only noted, and everything else is refused as an invalid request. Every request that is carried out
is audited; a handshake without a version is refused before that.
-/

namespace ModelContext

/-- What a server is set up with. -/
structure Server where
  name : String
  apiToken : Option String
  deriving DecidableEq

namespace Server

/-- The name of the program. -/
def program : String := "demo-mcp"

def programVersion : String := "0.1.0"

/-- The protocol version that the server speaks. -/
def protocolVersion : String := "2024-11-05"

def instructions : String :=
  "Demo server: call the add tool to sum two integers, or read greeting://\x7bname\x7d."

def missingVersion : Refusal :=
  .badRequest "invalid_protocol_version" "initialize params.protocolVersion is required"

/-- The version that a client offers, without blanks around it. -/
def offeredVersion? (params : Option Json) : Option String :=
  ((params.bind (·.get? "protocolVersion")).bind Json.str?).bind fun offered =>
    let offered := Text.trim offered
    if offered.isEmpty then none else some offered

/-- The version to speak with a client: the server's own, whatever is offered. -/
def negotiate (params : Option Json) : Logged (Except Refusal String) :=
  match offeredVersion? params with
  | none => pure (.error missingVersion)
  | some offered => do
    if offered ≠ protocolVersion then Logged.emit (.versionDiffers offered protocolVersion)
    pure (.ok protocolVersion)

/-- The result of a handshake. -/
def welcome (server : Server) (version : String) : InitializeResult :=
  let listing := some { listChanged := some false }
  { capabilities :=
      { completions := none, experimental := none, logging := none, prompts := listing,
        resources := some { listChanged := some false, subscribe := some false }, tasks := none, tools := listing }
    instructions := some instructions, info := none, protocolVersion := version,
    serverInfo := .plain server.name programVersion }

/-- The items of a listing. -/
def items : (listing : Listing) → List listing.Item
  | .prompts => prompts
  | .resources => resources
  | .templates => resourceTemplates
  | .tools => tools

/-- The whole of a listing as one page. -/
def listingJson (listing : Listing) : Json :=
  listing.pageToJson (.whole (items listing))

/-- Notes in the audit log what was asked and whether it was done. -/
def audited (method : String) (params : Option Json) (answer : Logged Json) : Logged Json := do
  let reply ← answer
  Logged.emit (.actionAudited method (auditParams params) (isErrorReply reply))
  pure reply

/-- Answers a request whose form has been checked. -/
def respond (server : Server) (id : Option Json) (method : String) (params : Option Json) : Logged Json :=
  match Method.ofName? method with
  | some .handshake => do
    match ← negotiate params with
    | .ok version => audited method params (pure (resultReply id (server.welcome version).toJson))
    | .error refusal => refusal.reply id
  | some .ping => audited method params (pure (resultReply id (.obj [])))
  | some (.list listing) => audited method params (pure (resultReply id (listingJson listing)))
  | some .callTool => audited method params (answerCallTool id params)
  | some .readResource => audited method params (answerReadResource id params)
  | none => audited method params (pure (RpcFault.methodNotFound.reply id none))

/-- Does a request have the form that its method asks for? Any form will do for an unknown method. -/
def wellShaped (method : String) (params : Option Json) : Bool :=
  match Method.ofName? method with
  | some known => known.accepts params
  | none => true

/-- Answers a request: its form is checked first, and then that its method is not blank. -/
def answerRequest (server : Server) (id : Id) (method : String) (params : Option Fields) : Logged Json :=
  let id := some id.toJson
  let params := params.map Json.obj
  if wellShaped method params = false then pure (RpcFault.invalidParams.reply id none)
  else if (Text.trim method).isEmpty then pure (RpcFault.invalidRequest.reply id none)
  else server.respond id method params

/-- What a notification is noted as. -/
def notificationEvent (method : String) : Event :=
  if method = "notifications/initialized" then .clientReady
  else if method = "notifications/cancelled" then .requestCancelled
  else .notificationIgnored method

/-- Answers one message, if it asks for an answer. A null id is neither that of a request nor
missing as in a notification. -/
def answerMessage (server : Server) : Json → Logged (Option Json)
  | .obj fields =>
    let id := fields.lookup "id"
    if id = some .null then pure (some (RpcFault.invalidRequest.reply none none))
    else match Message.ofFields? fields with
      | some (.request id method params) => do
        let reply ← server.answerRequest id method params
        pure (some reply)
      | some (.notification method _) => do
        Logged.emit (notificationEvent method)
        pure none
      | none => pure (some (RpcFault.invalidRequest.reply id none))
  | _ => pure (some (RpcFault.invalidRequest.reply none none))

/-- The answers to the messages of a batch, in order. -/
def answerBatch (server : Server) : List Json → Logged (List Json)
  | [] => pure []
  | message :: batch => do
    let reply ← server.answerMessage message
    let replies ← server.answerBatch batch
    pure (reply.toList ++ replies)

/-- Answers a message or a batch; there is no answer if nothing asks for one. -/
def answer (server : Server) : Json → Logged (Option Json)
  | .arr [] => pure (some (RpcFault.invalidRequest.reply none none))
  | .arr batch => do
    let replies ← server.answerBatch batch
    pure (if replies.isEmpty then none else some (.arr replies))
  | message => server.answerMessage message

end Server
end ModelContext
