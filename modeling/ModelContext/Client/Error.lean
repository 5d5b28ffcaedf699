import ModelContext.Client.Transport
import ModelContext.Number.Integer

/-!
# What a client is told when a call fails
-/

namespace ModelContext.ClientError

/-- The text of an error. Errors of the layers below have texts of their own. -/
def message? : ClientError → Option String
  | http | stream _ | json => none
  | status code => some ("server answered with HTTP status " ++ decimalText code)
  | rpc code reason _ => some ("json-rpc error " ++ decimalText code ++ ": " ++ reason)
  | protocol reason => some ("protocol violation: " ++ reason)
  | notInitialized => some "session is not initialized"
  | closed => some "transport is closed"

end ModelContext.ClientError
