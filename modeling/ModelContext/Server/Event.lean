import ModelContext.Json.Printer

/-!
# Events

What a server tells its operator while it works. Each event has a level, a message and named fields,
whose values are texts.
-/

namespace ModelContext

inductive Level where
  | error
  | warn
  | info
  | debug
  deriving DecidableEq

def Level.name : Level → String
  | error => "ERROR"
  | warn => "WARN"
  | info => "INFO"
  | debug => "DEBUG"

inductive Event where
  | clientReady
  | requestCancelled
  | notificationIgnored (method : String)
  | versionDiffers (offered supported : String)
  | actionAudited (method : String) (params : Json) (failed : Bool)
  | rpcFailed (reason : String)
  | httpFailed (reason : String)
  | sessionOpened (id : String)
  | sessionClosed (id : String)
  | requestAnswered (method path : String) (status : Nat)
  | authenticationFailed (method path : String)
  | frameDiscarded
  | inputEnded
  deriving DecidableEq

namespace Event

def level : Event → Level
  | rpcFailed _ | httpFailed _ => .error
  | authenticationFailed .. => .warn
  | clientReady | actionAudited .. | sessionOpened _ | sessionClosed _ | requestAnswered .. | inputEnded => .info
  | requestCancelled | notificationIgnored _ | versionDiffers .. | frameDiscarded => .debug

def message : Event → String
  | clientReady => "client session initialized"
  | requestCancelled => "client cancelled a request"
  | notificationIgnored _ => "ignoring notification"
  | versionDiffers .. => "client offered a different protocol version"
  | actionAudited .. => "mcp action audited"
  | rpcFailed _ => "mcp request failed with internal error"
  | httpFailed _ => "request failed with internal error"
  | sessionOpened _ => "session opened"
  | sessionClosed _ => "session closed"
  | requestAnswered .. => "request summary"
  | authenticationFailed .. => "authentication failure"
  | frameDiscarded => "discarding undecodable stdio frame"
  | inputEnded => "stdin closed, stopping stdio transport"

def fields : Event → List (String × String)
  | notificationIgnored method => [("method", method)]
  | versionDiffers offered supported => [("offered", offered), ("supported", supported)]
  | actionAudited method params failed =>
    [("method", method), ("outcome", if failed then "failure" else "success"), ("params", params.text)]
  | rpcFailed reason | httpFailed reason => [("error", reason)]
  | sessionOpened id | sessionClosed id => [("session_id", id)]
  | requestAnswered method path status => [("method", method), ("path", path), ("status", decimalText status)]
  | authenticationFailed method path => [("method", method), ("path", path)]
  | clientReady | requestCancelled | frameDiscarded | inputEnded => []

end Event
end ModelContext
