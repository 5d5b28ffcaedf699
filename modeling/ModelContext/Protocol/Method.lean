import ModelContext.Protocol.Listing
import ModelContext.Protocol.Params

/-!
# The methods of the protocol

Each method has a name on the wire and a form that its parameters must have.
-/

namespace ModelContext

/-- The four things that a server lists. -/
inductive Listing where
  | prompts
  | resources
  | templates
  | tools
  deriving DecidableEq

namespace Listing

/-- The key under which a page holds its items. -/
def key : Listing → String
  | prompts => "prompts"
  | resources => "resources"
  | templates => "resourceTemplates"
  | tools => "tools"

def methodName : Listing → String
  | prompts => "prompts/list"
  | resources => "resources/list"
  | templates => "resources/templates/list"
  | tools => "tools/list"

/-- What a listing lists. -/
@[reducible] def Item : Listing → Type
  | prompts => Prompt
  | resources => Resource
  | templates => ResourceTemplate
  | tools => Tool

def itemOfJson? : (listing : Listing) → Json → Option listing.Item
  | prompts => Prompt.ofJson?
  | resources => Resource.ofJson?
  | templates => ResourceTemplate.ofJson?
  | tools => Tool.ofJson?

def itemToJson : (listing : Listing) → listing.Item → Json
  | prompts => Prompt.toJson
  | resources => Resource.toJson
  | templates => ResourceTemplate.toJson
  | tools => Tool.toJson

def pageOfJson? (listing : Listing) (v : Json) : Option (Page listing.Item) :=
  Page.ofJson? listing.key listing.itemOfJson? v

def pageToJson (listing : Listing) (page : Page listing.Item) : Json :=
  page.toJson listing.key listing.itemToJson

end Listing

inductive Method where
  | handshake
  | ping
  | list (listing : Listing)
  | callTool
  | readResource
  deriving DecidableEq

namespace Method

def name : Method → String
  | handshake => "initialize"
  | ping => "ping"
  | list listing => listing.methodName
  | callTool => "tools/call"
  | readResource => "resources/read"

def all : List Method :=
  [handshake, ping, list .prompts, list .resources, list .templates, list .tools, callTool, readResource]

theorem mem_all (m : Method) : m ∈ all := by
  rcases m with _ | _ | (_ | _ | _ | _) | _ | _ <;> decide

/-- The method with a name, compared exactly. -/
def ofName? (name : String) : Option Method :=
  all.find? (·.name = name)

theorem ofName?_name (m : Method) : ofName? m.name = some m := by
  rcases m with _ | _ | (_ | _ | _ | _) | _ | _ <;> decide

theorem ofName?_eq_some_iff {name : String} {m : Method} : ofName? name = some m ↔ m.name = name := by
  constructor
  · intro h
    simpa using List.find?_some h
  · rintro rfl
    exact ofName?_name m

/-- Do the parameters have the form that the method asks for? Three methods cannot do without. -/
def accepts (m : Method) (params : Option Json) : Bool :=
  match m, params with
  | handshake, some v => (InitializeParams.ofJson? v).isSome
  | callTool, some v => (CallToolParams.ofJson? v).isSome
  | readResource, some v => (ReadResourceParams.ofJson? v).isSome
  | handshake, none | callTool, none | readResource, none => false
  | ping, some v => (checkPingParams v).isSome
  | list _, some v => (ListParams.ofJson? v).isSome
  | ping, none | list _, none => true

end Method
end ModelContext
