import ModelContext.Protocol.Id
import ModelContext.Protocol.Implementation

/-!
# The handshake

The first request of a session offers a protocol version and tells what the client can do; its
result names the version that both will speak and what the server can do. The server does not use
what the client can do, so that part is only checked.
-/

namespace ModelContext

/-- Whether a member lists change over time. -/
structure ListingCapability where
  listChanged : Option Bool
  deriving DecidableEq

namespace ListingCapability

def ofJson? (v : Json) : Option ListingCapability := do
  let r ← v.record? 1
  let listChanged ← r.optional 0 "listChanged" Json.bool?
  some { listChanged }

def toJson (c : ListingCapability) : Json :=
  .ofPresent [("listChanged", c.listChanged.map .bool)]

end ListingCapability

structure ResourceCapability where
  listChanged : Option Bool
  subscribe : Option Bool
  deriving DecidableEq

namespace ResourceCapability

def ofJson? (v : Json) : Option ResourceCapability := do
  let r ← v.record? 2
  let listChanged ← r.optional 0 "listChanged" Json.bool?
  let subscribe ← r.optional 1 "subscribe" Json.bool?
  some { listChanged, subscribe }

def toJson (c : ResourceCapability) : Json :=
  .ofPresent [("listChanged", c.listChanged.map .bool), ("subscribe", c.subscribe.map .bool)]

end ResourceCapability

/-- The tool requests that may run as tasks. -/
structure TaskToolCapability where
  call : Option Fields
  deriving DecidableEq

structure TaskRequestCapability where
  tools : Option TaskToolCapability
  deriving DecidableEq

structure TaskCapability where
  cancel : Option Fields
  list : Option Fields
  requests : Option TaskRequestCapability
  deriving DecidableEq

namespace TaskCapability

def ofJson? (v : Json) : Option TaskCapability := do
  let r ← v.record? 3
  let cancel ← r.optional 0 "cancel" Json.openObject?
  let list ← r.optional 1 "list" Json.openObject?
  let requests ← r.optional 2 "requests" fun v => do
    let r ← v.record? 1
    let tools ← r.optional 0 "tools" fun v => do
      let r ← v.record? 1
      let call ← r.optional 0 "call" Json.openObject?
      some { call : TaskToolCapability }
    some { tools : TaskRequestCapability }
  some { cancel, list, requests }

def toJson (c : TaskCapability) : Json :=
  .ofPresent
    [("cancel", c.cancel.map .obj),
     ("list", c.list.map .obj),
     ("requests", c.requests.map fun requests =>
       .ofPresent [("tools", requests.tools.map fun tools => .ofPresent [("call", tools.call.map .obj)])])]

end TaskCapability

structure ServerCapabilities where
  completions : Option Fields
  experimental : Option Fields
  logging : Option Fields
  prompts : Option ListingCapability
  resources : Option ResourceCapability
  tasks : Option TaskCapability
  tools : Option ListingCapability
  deriving DecidableEq

namespace ServerCapabilities

def ofJson? (v : Json) : Option ServerCapabilities := do
  let r ← v.record? 7
  let completions ← r.optional 0 "completions" Json.openObject?
  let experimental ← r.optional 1 "experimental" Json.openObjects?
  let logging ← r.optional 2 "logging" Json.openObject?
  let prompts ← r.optional 3 "prompts" ListingCapability.ofJson?
  let resources ← r.optional 4 "resources" ResourceCapability.ofJson?
  let tasks ← r.optional 5 "tasks" TaskCapability.ofJson?
  let tools ← r.optional 6 "tools" ListingCapability.ofJson?
  some { completions, experimental, logging, prompts, resources, tasks, tools }

def toJson (c : ServerCapabilities) : Json :=
  .ofPresent
    [("completions", c.completions.map .obj),
     ("experimental", c.experimental.map .obj),
     ("logging", c.logging.map .obj),
     ("prompts", c.prompts.map ListingCapability.toJson),
     ("resources", c.resources.map ResourceCapability.toJson),
     ("tasks", c.tasks.map TaskCapability.toJson),
     ("tools", c.tools.map ListingCapability.toJson)]

end ServerCapabilities

/-- What a server answers to the handshake. -/
structure InitializeResult where
  capabilities : ServerCapabilities
  instructions : Option String
  info : Option Fields
  protocolVersion : String
  serverInfo : Implementation
  deriving DecidableEq

namespace InitializeResult

def ofJson? (v : Json) : Option InitializeResult := do
  let r ← v.record? 5
  let capabilities ← r.required 0 "capabilities" ServerCapabilities.ofJson?
  let instructions ← r.optional 1 "instructions" Json.str?
  let info ← r.optional 2 "_meta" Json.openObject?
  let protocolVersion ← r.required 3 "protocolVersion" Json.str?
  let serverInfo ← r.required 4 "serverInfo" Implementation.ofJson?
  some { capabilities, instructions, info, protocolVersion, serverInfo }

def toJson (result : InitializeResult) : Json :=
  .ofPresent
    [("_meta", result.info.map .obj),
     ("capabilities", some result.capabilities.toJson),
     ("instructions", result.instructions.map .str),
     ("protocolVersion", some (.str result.protocolVersion)),
     ("serverInfo", some result.serverInfo.toJson)]

end InitializeResult

/-- Checks what a client says that it can do. -/
def checkClientCapabilities (v : Json) : Option Unit := do
  let r ← v.record? 5
  let _ ← r.optional 0 "elicitation" fun v => do
    let r ← v.record? 2
    let _ ← r.optional 0 "form" Json.openObject?
    r.optional 1 "url" Json.openObject?
  let _ ← r.optional 1 "experimental" Json.openObjects?
  let _ ← r.optional 2 "roots" ListingCapability.ofJson?
  let _ ← r.optional 3 "sampling" fun v => do
    let r ← v.record? 2
    let _ ← r.optional 0 "context" Json.openObject?
    r.optional 1 "tools" Json.openObject?
  let _ ← r.optional 4 "tasks" fun v => do
    let r ← v.record? 3
    let _ ← r.optional 0 "cancel" Json.openObject?
    let _ ← r.optional 1 "list" Json.openObject?
    r.optional 2 "requests" fun v => do
      let r ← v.record? 2
      let _ ← r.optional 0 "elicitation" fun v => do
        let r ← v.record? 1
        r.optional 0 "create" Json.openObject?
      r.optional 1 "sampling" fun v => do
        let r ← v.record? 1
        r.optional 0 "createMessage" Json.openObject?
  some ()

/-- The parameters of the handshake, as far as a server uses them. -/
structure InitializeParams where
  clientInfo : Implementation
  protocolVersion : String

def InitializeParams.ofJson? (v : Json) : Option InitializeParams := do
  let r ← v.record? 4
  let _ ← r.required 0 "capabilities" checkClientCapabilities
  let clientInfo ← r.required 1 "clientInfo" Implementation.ofJson?
  let _ ← r.optional 2 "_meta" RequestMeta.ofJson?
  let protocolVersion ← r.required 3 "protocolVersion" Json.str?
  some { clientInfo, protocolVersion }

end ModelContext
