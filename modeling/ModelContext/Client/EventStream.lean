import ModelContext.Client.Transport
import ModelContext.Json.Reader
import ModelContext.Text.Blank
import ModelContext.Text.Lines
import ModelContext.Text.Parts

/-!
# Event streams

A body of server-sent events, with two line feeds between events. The first event that has data and is
a message, by its name or for want of one, carries the answer.
-/

namespace ModelContext

/-- What the lines of an event say: its name, and its lines of data in order. -/
structure ServerEvent where
  name : List Char
  data : List (List Char)
  deriving DecidableEq

namespace ServerEvent

def messageName : List Char := "message".toList

/-- An event of which nothing was said. -/
def blank : ServerEvent :=
  { name := messageName, data := [] }

/-- Takes in a line: the last name counts, and one space in front of data does not. Other lines are
skipped. -/
def addLine (event : ServerEvent) (line : List Char) : ServerEvent :=
  match Text.after? "event:".toList line with
  | some name => { event with name := Text.strip Text.isBlank name }
  | none =>
    match Text.after? "data:".toList line with
    | some data => { event with data := event.data ++ [(Text.after? [' '] data).getD data] }
    | none => event

def ofLines (lines : List (List Char)) : ServerEvent :=
  lines.foldl addLine blank

/-- Is this a message with data? -/
def isMessage (event : ServerEvent) : Bool :=
  event.name = messageName ∧ event.data ≠ []

/-- The data of an event: its lines, with line feeds between them. -/
def text (event : ServerEvent) : String :=
  String.ofList (['\n'].intercalate event.data)

end ServerEvent

/-- The events of a body. -/
def eventsOf (body : String) : List ServerEvent :=
  (Text.paragraphs '\n' body.toList).map fun part => .ofLines (Text.lines '\r' '\n' part)

/-- The value that the first message of a body carries. -/
def messageOf (body : String) : Except ClientError Json :=
  match (eventsOf body).find? ServerEvent.isMessage with
  | none => .error (.protocol "event stream carried no message event")
  | some event =>
    match Json.parse? event.text with
    | some v => .ok v
    | none => .error .json

end ModelContext
