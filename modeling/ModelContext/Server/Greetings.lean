import ModelContext.Protocol.Content
import ModelContext.Protocol.Params
import ModelContext.Server.Refusal
import ModelContext.Text.Parts

/-!
# Resources and prompts

The server has no resources of its own and no prompts. It serves one template of resources, the
greetings: one for each name, which is one segment without query and fragment.
-/

namespace ModelContext

namespace Greeting

def scheme : String := "greeting://"

def mimeType : String := "text/plain"

/-- The characters that end a segment. -/
def isDelimiter (c : Char) : Bool :=
  c == '/' || c == '?' || c == '#'

/-- The name in the address of a greeting. -/
def name? (uri : String) : Option String :=
  (Text.after? scheme.toList uri.toList).bind fun name =>
    if name ≠ [] ∧ name.any isDelimiter = false then some (String.ofList name) else none

def text (name : String) : String :=
  "Hello, " ++ name ++ "!"

def contents (uri name : String) : ReadResourceResult :=
  { contents := [.text none (some mimeType) (text name) uri], info := none }

/-- How the greetings are listed. -/
def template : ResourceTemplate :=
  { annotations := none, description := some "Get a personalized greeting", icons := [], info := none,
    mimeType := some mimeType, name := "get_greeting", title := none, uriTemplate := scheme ++ "\x7bname\x7d" }

end Greeting

def prompts : List Prompt := []

def resources : List Resource := []

def resourceTemplates : List ResourceTemplate := [Greeting.template]

def unknownResource (uri : String) : Refusal :=
  .notFound "resource_not_found" "unknown resource uri" (.obj [("uri", .str uri)])

def readResource (uri : String) : Except Refusal ReadResourceResult :=
  match Greeting.name? uri with
  | some name => .ok (Greeting.contents uri name)
  | none => .error (unknownResource uri)

/-- Answers a request to read a resource. -/
def answerReadResource (id params : Option Json) : Logged Json :=
  match params.bind ReadResourceParams.ofJson? with
  | none => pure (RpcFault.invalidParams.reply id none)
  | some params =>
    match readResource params.uri with
    | .ok result => pure (resultReply id result.toJson)
    | .error refusal => refusal.reply id

end ModelContext
