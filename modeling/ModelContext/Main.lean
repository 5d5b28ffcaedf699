import ModelContext.Config.Settings
import ModelContext.Server.Stdio

/-!
# The server program

Answers the lines of its standard input as they come. A server that is to be reached over HTTP needs a
host that listens for it; this program does not listen itself.
-/

namespace ModelContext

/-- The variables that the server program looks at. -/
def serverVariables : List String :=
  ["BIND_ADDR", "BIND_PORT", "MCP_TRANSPORT", "MCP_SERVER_NAME", "MCP_API_TOKEN"]

def readEnvironment : IO Environment := do
  let entries ← serverVariables.mapM fun name => do
    let value ← IO.getEnv name
    pure (value.map fun text => (name, Bytes.ofText text))
  pure (entries.filterMap id)

/-- Answers line after line to the end of the input. A line that is not UTF-8 cannot be read, which ends
the program with a failure. -/
partial def serveStream (server : Server) (input output : IO.FS.Stream) : IO UInt32 := do
  match ← input.getLine.toBaseIO with
  | .error e =>
    IO.eprintln e.toString
    pure 1
  | .ok line =>
    if line.isEmpty then pure 0
    else
      match (server.answerLine line).value with
      | none => pure ()
      | some reply =>
        output.putStr (frame reply)
        output.flush
      serveStream server input output

end ModelContext

open ModelContext

def main : IO UInt32 := do
  match ServerConfig.ofEnvironment (← readEnvironment) with
  | .error e =>
    IO.eprintln e.message
    pure 1
  | .ok config =>
    match config.carrier with
    | .http =>
      IO.eprintln "the http transport is not served by this program"
      pure 1
    | .stdio =>
      let server : Server := { name := config.serverName, apiToken := config.apiToken }
      serveStream server (← IO.getStdin) (← IO.getStdout)
