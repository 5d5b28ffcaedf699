import ModelContext.Client.Transport
import ModelContext.Server.Stdio

/-!
# A server in a process of its own

Messages are lines on the standard input of the process, and the lines of its standard output are read
in order. An answer is the first line with the id of the request; lines before it are skipped. A
process that has nothing more to say is taken to have closed its output. It is assumed to read its input
until that is closed, so that a message can always be written; processes that end before are left out.
-/

namespace ModelContext

/-- A process that listens to lines until its input ends: what it writes on hearing one. -/
structure Peer (π : Type) where
  hear : String → π → Bytes × π

namespace Peer

/-- The process that reads its input and writes nothing more. -/
def silent : Peer Unit where
  hear _ s := ([], s)

/-- The process of a server. -/
def serving (server : Server) : Peer Unit where
  hear line s := (Bytes.ofText (server.serve (Bytes.ofText line)).value.1, s)

end Peer

/-- What is kept of a process: its own state, the lines that it wrote and that were not read, and
whether its input is open. -/
structure ChildLink (π : Type) where
  peer : π
  unread : List Bytes
  isOpen : Bool

namespace ChildLink

variable {π : Type}

/-- A process that has just been started, with what it wrote by itself. -/
def start (peer : π) (written : Bytes) : ChildLink π :=
  { peer, unread := written.lines, isOpen := true }

/-- Is a value the answer to the request with an id? -/
def isAnswer (id v : Json) : Bool :=
  (v.has "result" || v.has "error") && (v.get? "id").any (·.same id)

/-- Reads lines up to the answer to the request with an id. -/
def readAnswer (id : Json) : List Bytes → Except ClientError Json × List Bytes
  | [] => (.error .closed, [])
  | line :: later =>
    match line.toText? with
    | none => (.error (.stream .invalidData), later)
    | some text =>
      let text := Text.trim text
      if text.isEmpty then readAnswer id later
      else match Json.parse? text with
        | none => (.error .json, later)
        | some v => if isAnswer id v then (.ok v, later) else readAnswer id later

/-- Writes a message and, if it has an id, reads the answer. Writing fails only after the input was closed. -/
def send (peer : Peer π) (message : Json) (link : ChildLink π) :
    Except ClientError (Option Json) × ChildLink π :=
  if link.isOpen = false then (.error .closed, link)
  else
    let (written, state) := peer.hear (frame message) link.peer
    let unread := link.unread ++ written.lines
    match message.get? "id" with
    | none => (.ok none, { link with peer := state, unread })
    | some id =>
      let (answer, unread) := readAnswer id unread
      (answer.map some, { link with peer := state, unread })

/-- Closes the input of the process, which ends it. -/
def close (link : ChildLink π) : Except ClientError Unit × ChildLink π :=
  (.ok (), { link with isOpen := false })

/-- The transport to a process. -/
def transport (peer : Peer π) : Transport (ChildLink π) where
  send := send peer
  close := close

end ChildLink
end ModelContext
