import ModelContext.Config.SocketAddress
import ModelContext.Text.Blank
import ModelContext.Text.Utf8

/-!
# Settings

What server and client take from their environment. A variable that is not UTF-8 counts as unset, and
most variables also count as unset when they are blank.
-/

namespace ModelContext

/-- The variables of a process. -/
abbrev Environment := List (String × Bytes)

namespace Environment

/-- The text of a variable. -/
def value? (env : Environment) (name : String) : Option String :=
  (env.lookup name).bind Bytes.toText?

/-- The text of a variable without blanks around it, if something is left. -/
def setting? (env : Environment) (name : String) : Option String :=
  (env.value? name).bind fun value =>
    let value := Text.trim value
    if value.isEmpty then none else some value

end Environment

inductive ConfigError where
  | invalidPort
  | invalidSocket
  | invalidTransport
  | invalidServerUrl
  deriving DecidableEq

def ConfigError.message : ConfigError → String
  | invalidPort => "BIND_PORT must be a valid u16"
  | invalidSocket => "invalid bind address or port"
  | invalidTransport => "MCP_TRANSPORT must be one of: http, stdio"
  | invalidServerUrl => "MCP_SERVER_URL must be an absolute http(s) URL"

/-- How a server is reached. -/
inductive Carrier where
  | http
  | stdio
  deriving DecidableEq

namespace Carrier

def name : Carrier → String
  | http => "http"
  | stdio => "stdio"

/-- The carrier with a name, in any case and with blanks around it. -/
def ofText (text : String) : Except ConfigError Carrier :=
  match Text.lowerAscii (Text.trim text) with
  | "http" => .ok http
  | "stdio" => .ok stdio
  | _ => .error .invalidTransport

end Carrier

/-- The socket that a server listens on. -/
def bindSocket (address : String) (port : UInt16) : Except ConfigError SocketAddress :=
  match SocketAddress.ofText? (address ++ ":" ++ decimalText port.toNat) with
  | some socket => .ok socket
  | none => .error .invalidSocket

structure ServerConfig where
  apiToken : Option String
  bindAddress : String
  bindPort : UInt16
  serverName : String
  carrier : Carrier
  deriving DecidableEq

namespace ServerConfig

def defaultName : String := "Demo"

def defaultAddress : String := "127.0.0.1"

def defaultPort : UInt16 := 8000

/-- The port of a server. Blanks around it are not allowed. -/
def portOf (env : Environment) : Except ConfigError UInt16 :=
  match env.value? "BIND_PORT" with
  | none => .ok defaultPort
  | some text =>
    match boundedNat? 65536 text.toList with
    | some port => .ok port.toUInt16
    | none => .error .invalidPort

def carrierOf (env : Environment) : Except ConfigError Carrier :=
  match env.setting? "MCP_TRANSPORT" with
  | none => .ok .http
  | some text => Carrier.ofText text

/-- The settings of a server; the socket matters only to a server that is reached over HTTP. -/
def ofEnvironment (env : Environment) : Except ConfigError ServerConfig := do
  let bindAddress := (env.value? "BIND_ADDR").getD defaultAddress
  let bindPort ← portOf env
  let carrier ← carrierOf env
  let serverName := (env.setting? "MCP_SERVER_NAME").getD defaultName
  if carrier = .http then
    let _ ← bindSocket bindAddress bindPort
  .ok { apiToken := env.setting? "MCP_API_TOKEN", bindAddress, bindPort, serverName, carrier }

end ServerConfig

structure ClientConfig where
  serverUrl : String
  serverCommand : Option (List String)
  apiToken : Option String
  deriving DecidableEq

namespace ClientConfig

def defaultUrl : String := "http://127.0.0.1:8000/mcp"

/-- Does a text begin like the address of a web server? -/
def isWebUrl (url : String) : Bool :=
  "http://".toList.isPrefixOf url.toList || "https://".toList.isPrefixOf url.toList

/-- The settings of a client. A command is split into its words. -/
def ofEnvironment (env : Environment) : Except ConfigError ClientConfig :=
  let serverUrl := (env.setting? "MCP_SERVER_URL").getD defaultUrl
  if isWebUrl serverUrl then
    .ok
      { serverUrl
        serverCommand := (env.setting? "MCP_SERVER_COMMAND").map Text.words
        apiToken := env.setting? "MCP_API_TOKEN" }
  else .error .invalidServerUrl

end ClientConfig
end ModelContext
