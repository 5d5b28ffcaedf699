import ModelContext.Rpc.Reply
import ModelContext.Server.Logged

/-!
# Refusals

Why a server does not do what it is asked. A refusal has a code for programs and a message for
people; the reason of an internal one is told to the operator only.
-/

namespace ModelContext

inductive Refusal where
  | badRequest (code reason : String)
  | unauthorized (code reason : String)
  | notFound (code reason : String) (details : Json)
  | internal (code reason : String)
  deriving DecidableEq

namespace Refusal

def code : Refusal → String
  | badRequest code _ | unauthorized code _ | notFound code _ _ | internal code _ => code

def message : Refusal → String
  | badRequest _ reason => "bad request: " ++ reason
  | unauthorized _ reason => "unauthorized: " ++ reason
  | notFound _ reason _ => "not found: " ++ reason
  | internal .. => "internal error"

/-- A refusal for a fault of the server itself. -/
def fault (reason : String) : Refusal :=
  .internal "internal_error" reason

/-- The data of an error reply. -/
def data (code reason : String) (details : Json) : Json :=
  .obj [("code", .str code), ("details", details), ("message", .str reason)]

/-- The refusal as an error reply. -/
def reply (id : Option Json) : Refusal → Logged Json
  | badRequest code reason => pure (RpcFault.invalidParams.reply id (some (data code reason (.obj []))))
  | unauthorized code reason => pure (RpcFault.unauthorized.reply id (some (data code reason (.obj []))))
  | notFound code reason details => pure (RpcFault.methodNotFound.reply id (some (data code reason details)))
  | internal _ reason => do
    Logged.emit (.rpcFailed reason)
    pure (RpcFault.internalError.reply id none)

end Refusal
end ModelContext
