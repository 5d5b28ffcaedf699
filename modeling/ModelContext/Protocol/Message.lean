import ModelContext.Protocol.Id

/-!
# Messages to a server

A message is a request if it has an id of the right form, and else a notification. Responses and
all other objects are no messages to a server. So a request whose id is neither a text nor a
64-bit integer counts as a notification.
-/

namespace ModelContext

def jsonRpcVersion : String := "2.0"

inductive Message where
  | request (id : Id) (method : String) (params : Option Fields)
  | notification (method : String) (params : Option Fields)
  deriving DecidableEq

namespace Message

/-- What requests and notifications have in common: the version, a method and perhaps parameters. -/
def call? (r : Record) : Option (String × Option Fields) := do
  let _ ← r.required 0 "jsonrpc" (Json.literal? jsonRpcVersion)
  let method ← r.required 1 "method" Json.str?
  let params ← r.optional 2 "params" Json.openObject?
  some (method, params)

def ofFields? (fields : Fields) : Option Message := do
  let (method, params) ← call? (.named fields)
  match (fields.lookup "id").bind Id.ofJson? with
  | some id => some (.request id method params)
  | none => some (.notification method params)

end Message

/-- The written form of a request. -/
def requestJson (id : Json) (method : String) (params : Option Json) : Json :=
  .ofPresent
    [("id", some id), ("jsonrpc", some (.str jsonRpcVersion)), ("method", some (.str method)), ("params", params)]

/-- The written form of a notification without parameters. -/
def notificationJson (method : String) : Json :=
  .obj [("jsonrpc", .str jsonRpcVersion), ("method", .str method)]

end ModelContext
