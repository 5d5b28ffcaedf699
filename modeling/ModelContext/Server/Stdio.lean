import ModelContext.Json.Reader
import ModelContext.Server.Basic
import ModelContext.Text.Lines

/-!
# Serving lines

Over standard input and output, each line is one message or batch and each answer is one line. Blank
lines are skipped, a line that is not JSON is answered with a parse error, and a line that is not
UTF-8 ends the service.
-/

namespace ModelContext

/-- The byte that ends a line. -/
def lineFeed : UInt8 := 10

def carriageReturn : UInt8 := 13

/-- The lines of a byte string. -/
def Bytes.lines (bytes : Bytes) : List Bytes :=
  Text.lines carriageReturn lineFeed bytes

/-- A message as one line. -/
def frame (message : Json) : String :=
  message.text ++ "\n"

/-- How a service ended. -/
inductive ServiceEnd where
  | inputEnded
  | notText
  deriving DecidableEq

namespace Server

/-- Answers one line. -/
def answerLine (server : Server) (line : String) : Logged (Option Json) :=
  let line := Text.trim line
  if line.isEmpty then pure none
  else match Json.parse? line with
    | some message => server.answer message
    | none => do
      Logged.emit .frameDiscarded
      pure (some (RpcFault.parseError.reply none none))

/-- Answers line after line, to the end or to a line that is no text. -/
def serveLines (server : Server) : List Bytes → Logged (List Json × ServiceEnd)
  | [] => do
    Logged.emit .inputEnded
    pure ([], .inputEnded)
  | line :: later =>
    match line.toText? with
    | none => pure ([], .notText)
    | some line => do
      let reply ← server.answerLine line
      let (replies, finish) ← server.serveLines later
      pure (reply.toList ++ replies, finish)

/-- What a service over a whole input writes, and how it ends. -/
def serve (server : Server) (input : Bytes) : Logged (String × ServiceEnd) := do
  let (replies, finish) ← server.serveLines input.lines
  pure (String.join (replies.map frame), finish)

end Server
end ModelContext
