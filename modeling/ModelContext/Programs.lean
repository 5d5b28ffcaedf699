import ModelContext.Client.Child
import ModelContext.Client.Web
import ModelContext.Config.Settings
import ModelContext.Report.Visit

/-!
# The two programs

The server program serves its standard input, if it is set up to; a server that is reached over HTTP
does not end by itself. The client program visits a server, which it starts as a process if it has a
command for that, and reaches over HTTP if not.
-/

namespace ModelContext

/-- Why a program ended with a failure. -/
inductive ProgramError where
  | config (error : ConfigError)
  | client (error : ClientError)
  | input
  deriving DecidableEq

/-- What a program wrote, line by line, and how it ended. -/
structure ProgramRun where
  output : String
  error : Option ProgramError
  deriving DecidableEq

namespace ProgramRun

def exitCode (run : ProgramRun) : Nat :=
  if run.error.isSome then 1 else 0

def failed (error : ProgramError) : ProgramRun :=
  { output := "", error := some error }

end ProgramRun

/-- The server that an environment sets up. -/
def ServerConfig.server (config : ServerConfig) : Server :=
  { name := config.serverName, apiToken := config.apiToken }

/-- The server program on its standard input; nothing if it serves HTTP. -/
def serverProgram (env : Environment) (input : Bytes) : Option ProgramRun :=
  match ServerConfig.ofEnvironment env with
  | .error e => some (.failed (.config e))
  | .ok config =>
    match config.carrier with
    | .http => none
    | .stdio =>
      let service := (config.server.serve input).value
      some
        { output := service.1
          error := match service.2 with
            | .inputEnded => none
            | .notText => some .input }

/-- The server program as a process that hears lines. One that is not set up to serve lines says
nothing. -/
def serverPeer (env : Environment) : Peer Unit :=
  match ServerConfig.ofEnvironment env with
  | .error _ => .silent
  | .ok config =>
    match config.carrier with
    | .http => .silent
    | .stdio => .serving config.server

/-- Where a client program finds its server. -/
inductive Destination where
  | process (program : String) (arguments : List String)
  | web (url : String)
  deriving DecidableEq

/-- A command is started, with its first word as the program; without one, the server is on the web. -/
def ClientConfig.destination (config : ClientConfig) : Destination :=
  match config.serverCommand with
  | some (program :: arguments) => .process program arguments
  | _ => .web config.serverUrl

/-- The world around a client program: the programs that it can start, and the web. -/
structure Surroundings (ω : Type) where
  /-- What a program does that is started with arguments, if there is one of that name. -/
  start? : String → List String → Option (Peer Unit)
  /-- The path of an address, if it can be used. -/
  endpoint? : String → Option String
  wire : Wire ω
  wireState : ω

/-- What a visit wrote and how it ended. -/
def ProgramRun.ofVisit {σ : Type} (visit : Session.Visit σ) : ProgramRun :=
  { output := String.join (visit.lines.map (· ++ "\n"))
    error := match visit.outcome with
      | .ok _ => none
      | .error e => some (.client e) }

/-- The client program. -/
def clientProgram {ω : Type} (env : Environment) (around : Surroundings ω) : ProgramRun :=
  match ClientConfig.ofEnvironment env with
  | .error e => .failed (.config e)
  | .ok config =>
    match config.destination with
    | .process program arguments =>
      match around.start? program arguments with
      | none => .failed (.client (.stream .notFound))
      | some peer => .ofVisit ((Session.start (ChildLink.start () [])).visit (ChildLink.transport peer))
    | .web url =>
      let client : WebClient := { endpoint := around.endpoint? url, token := config.apiToken }
      .ofVisit ((Session.start { session := none, wire := around.wireState }).visit (client.transport around.wire))

end ModelContext
