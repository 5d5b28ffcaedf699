import ModelContext.Protocol.Message

/-!
# Replies

A reply carries an id and either a result or an error. An id that is neither a text nor a 64-bit
integer cannot stand in an error, whose id is then null.
-/

namespace ModelContext

/-- The kinds of errors, each with its code and standard message. -/
inductive RpcFault where
  | parseError
  | invalidRequest
  | methodNotFound
  | invalidParams
  | internalError
  | unauthorized
  deriving DecidableEq

namespace RpcFault

def code : RpcFault → Int
  | parseError => -32700
  | invalidRequest => -32600
  | methodNotFound => -32601
  | invalidParams => -32602
  | internalError => -32603
  | unauthorized => -32001

def message : RpcFault → String
  | parseError => "Parse error"
  | invalidRequest => "Invalid Request"
  | methodNotFound => "Method not found"
  | invalidParams => "Invalid params"
  | internalError => "Internal error"
  | unauthorized => "Unauthorized"

end RpcFault

/-- The id of a message in the form in which a typed reply can carry it. -/
def usableId (id : Option Json) : Option Id :=
  id.bind Id.ofJson?

/-- The error member of a reply; `data` is left out if there is none, and a null is kept. -/
def errorMember (code : Int) (message : String) (data : Option Json) : Json :=
  .ofPresent [("code", some (.int code)), ("data", data), ("message", some (.str message))]

/-- A reply that carries an error. -/
def errorReply (id : Option Json) (code : Int) (message : String) (data : Option Json) : Json :=
  .obj
    [("error", errorMember code message data),
     ("id", ((usableId id).map Id.toJson).getD .null),
     ("jsonrpc", .str jsonRpcVersion)]

/-- A reply that carries an error of a standard kind. -/
def RpcFault.reply (fault : RpcFault) (id : Option Json) (data : Option Json) : Json :=
  errorReply id fault.code fault.message data

/-- A reply that carries a result. Under a usable id the result is an object, empty if there is
none; under any other id both are given back as they are. -/
def resultReply (id : Option Json) (result : Json) : Json :=
  match usableId id with
  | some usable =>
    .obj
      [("id", usable.toJson), ("jsonrpc", .str jsonRpcVersion), ("result", .obj (result.fields?.getD []))]
  | none =>
    .obj [("id", id.getD .null), ("jsonrpc", .str jsonRpcVersion), ("result", result)]

/-- Does a reply carry an error? -/
def isErrorReply (reply : Json) : Bool :=
  reply.has "error"

@[simp] theorem isErrorReply_errorReply (id : Option Json) (code : Int) (message : String) (data : Option Json) :
    isErrorReply (errorReply id code message data) = true := by
  simp [isErrorReply, errorReply, Json.has, Json.get?]

@[simp] theorem isErrorReply_resultReply (id : Option Json) (result : Json) :
    isErrorReply (resultReply id result) = false := by
  unfold resultReply
  split <;> simp [isErrorReply, Json.has, Json.get?, List.lookup_cons]

end ModelContext
