import ModelContext.Protocol.Implementation

/-!
# What a server lists

Prompts, resources, resource templates and tools, and the pages in which a server hands them out.
-/

namespace ModelContext

inductive Role where
  | assistant
  | user
  deriving DecidableEq

namespace Role

def name : Role → String
  | assistant => "assistant"
  | user => "user"

def ofName? : String → Option Role
  | "assistant" => some assistant
  | "user" => some user
  | _ => none

def ofJson? (v : Json) : Option Role :=
  v.caseName?.bind ofName?

end Role

/-- Whom a member is for, when it last changed and how much it matters. -/
structure Annotations where
  audience : List Role
  lastModified : Option String
  priority : Option Double
  deriving DecidableEq

namespace Annotations

def ofJson? (v : Json) : Option Annotations := do
  let r ← v.record? 3
  let audience ← r.many 0 "audience" Role.ofJson?
  let lastModified ← r.optional 1 "lastModified" Json.str?
  let priority ← r.optional 2 "priority" Json.double?
  some { audience, lastModified, priority }

def toJson (a : Annotations) : Json :=
  .ofPresent
    [("audience", Json.nonEmpty (fun role => .str role.name) a.audience),
     ("lastModified", a.lastModified.map .str),
     ("priority", a.priority.map .float)]

end Annotations

structure PromptArgument where
  description : Option String
  name : String
  required : Option Bool
  title : Option String
  deriving DecidableEq

namespace PromptArgument

def ofJson? (v : Json) : Option PromptArgument := do
  let r ← v.record? 4
  let description ← r.optional 0 "description" Json.str?
  let name ← r.required 1 "name" Json.str?
  let required ← r.optional 2 "required" Json.bool?
  let title ← r.optional 3 "title" Json.str?
  some { description, name, required, title }

def toJson (a : PromptArgument) : Json :=
  .ofPresent
    [("description", a.description.map .str),
     ("name", some (.str a.name)),
     ("required", a.required.map .bool),
     ("title", a.title.map .str)]

end PromptArgument

structure Prompt where
  arguments : List PromptArgument
  description : Option String
  icons : List Icon
  info : Option Fields
  name : String
  title : Option String
  deriving DecidableEq

namespace Prompt

def ofJson? (v : Json) : Option Prompt := do
  let r ← v.record? 6
  let arguments ← r.many 0 "arguments" PromptArgument.ofJson?
  let description ← r.optional 1 "description" Json.str?
  let icons ← r.many 2 "icons" Icon.ofJson?
  let info ← r.optional 3 "_meta" Json.openObject?
  let name ← r.required 4 "name" Json.str?
  let title ← r.optional 5 "title" Json.str?
  some { arguments, description, icons, info, name, title }

def toJson (p : Prompt) : Json :=
  .ofPresent
    [("_meta", p.info.map .obj),
     ("arguments", Json.nonEmpty PromptArgument.toJson p.arguments),
     ("description", p.description.map .str),
     ("icons", Json.nonEmpty Icon.toJson p.icons),
     ("name", some (.str p.name)),
     ("title", p.title.map .str)]

end Prompt

structure Resource where
  annotations : Option Annotations
  description : Option String
  icons : List Icon
  info : Option Fields
  mimeType : Option String
  name : String
  size : Option Int
  title : Option String
  uri : String
  deriving DecidableEq

namespace Resource

def ofJson? (v : Json) : Option Resource := do
  let r ← v.record? 9
  let annotations ← r.optional 0 "annotations" Annotations.ofJson?
  let description ← r.optional 1 "description" Json.str?
  let icons ← r.many 2 "icons" Icon.ofJson?
  let info ← r.optional 3 "_meta" Json.openObject?
  let mimeType ← r.optional 4 "mimeType" Json.str?
  let name ← r.required 5 "name" Json.str?
  let size ← r.optional 6 "size" Json.int64?
  let title ← r.optional 7 "title" Json.str?
  let uri ← r.required 8 "uri" Json.str?
  some { annotations, description, icons, info, mimeType, name, size, title, uri }

def toJson (r : Resource) : Json :=
  .ofPresent
    [("_meta", r.info.map .obj),
     ("annotations", r.annotations.map Annotations.toJson),
     ("description", r.description.map .str),
     ("icons", Json.nonEmpty Icon.toJson r.icons),
     ("mimeType", r.mimeType.map .str),
     ("name", some (.str r.name)),
     ("size", r.size.map .int),
     ("title", r.title.map .str),
     ("uri", some (.str r.uri))]

end Resource

structure ResourceTemplate where
  annotations : Option Annotations
  description : Option String
  icons : List Icon
  info : Option Fields
  mimeType : Option String
  name : String
  title : Option String
  uriTemplate : String
  deriving DecidableEq

namespace ResourceTemplate

def ofJson? (v : Json) : Option ResourceTemplate := do
  let r ← v.record? 8
  let annotations ← r.optional 0 "annotations" Annotations.ofJson?
  let description ← r.optional 1 "description" Json.str?
  let icons ← r.many 2 "icons" Icon.ofJson?
  let info ← r.optional 3 "_meta" Json.openObject?
  let mimeType ← r.optional 4 "mimeType" Json.str?
  let name ← r.required 5 "name" Json.str?
  let title ← r.optional 6 "title" Json.str?
  let uriTemplate ← r.required 7 "uriTemplate" Json.str?
  some { annotations, description, icons, info, mimeType, name, title, uriTemplate }

def toJson (t : ResourceTemplate) : Json :=
  .ofPresent
    [("_meta", t.info.map .obj),
     ("annotations", t.annotations.map Annotations.toJson),
     ("description", t.description.map .str),
     ("icons", Json.nonEmpty Icon.toJson t.icons),
     ("mimeType", t.mimeType.map .str),
     ("name", some (.str t.name)),
     ("title", t.title.map .str),
     ("uriTemplate", some (.str t.uriTemplate))]

end ResourceTemplate

/-- Hints on what a tool does to its surroundings. -/
structure ToolAnnotations where
  destructiveHint : Option Bool
  idempotentHint : Option Bool
  openWorldHint : Option Bool
  readOnlyHint : Option Bool
  title : Option String
  deriving DecidableEq

namespace ToolAnnotations

def ofJson? (v : Json) : Option ToolAnnotations := do
  let r ← v.record? 5
  let destructiveHint ← r.optional 0 "destructiveHint" Json.bool?
  let idempotentHint ← r.optional 1 "idempotentHint" Json.bool?
  let openWorldHint ← r.optional 2 "openWorldHint" Json.bool?
  let readOnlyHint ← r.optional 3 "readOnlyHint" Json.bool?
  let title ← r.optional 4 "title" Json.str?
  some { destructiveHint, idempotentHint, openWorldHint, readOnlyHint, title }

def toJson (a : ToolAnnotations) : Json :=
  .ofPresent
    [("destructiveHint", a.destructiveHint.map .bool),
     ("idempotentHint", a.idempotentHint.map .bool),
     ("openWorldHint", a.openWorldHint.map .bool),
     ("readOnlyHint", a.readOnlyHint.map .bool),
     ("title", a.title.map .str)]

end ToolAnnotations

/-- May a tool run as a task? -/
inductive TaskSupport where
  | forbidden
  | optional
  | required
  deriving DecidableEq

namespace TaskSupport

def name : TaskSupport → String
  | forbidden => "forbidden"
  | optional => "optional"
  | required => "required"

def ofName? : String → Option TaskSupport
  | "forbidden" => some forbidden
  | "optional" => some optional
  | "required" => some required
  | _ => none

def ofJson? (v : Json) : Option TaskSupport :=
  v.caseName?.bind ofName?

end TaskSupport

structure ToolExecution where
  taskSupport : Option TaskSupport
  deriving DecidableEq

namespace ToolExecution

def ofJson? (v : Json) : Option ToolExecution := do
  let r ← v.record? 1
  let taskSupport ← r.optional 0 "taskSupport" TaskSupport.ofJson?
  some { taskSupport }

def toJson (e : ToolExecution) : Json :=
  .ofPresent [("taskSupport", e.taskSupport.map fun support => .str support.name)]

end ToolExecution

/-- The schema of an object: a schema for each property, and the names of those that it must have. -/
structure ObjectSchema where
  properties : Option Fields
  required : List String
  dialect : Option String
  deriving DecidableEq

namespace ObjectSchema

def ofJson? (v : Json) : Option ObjectSchema := do
  let r ← v.record? 4
  let properties ← r.optional 0 "properties" Json.openObjects?
  let required ← r.many 1 "required" Json.str?
  let dialect ← r.optional 2 "$schema" Json.str?
  let _ ← r.required 3 "type" (Json.literal? "object")
  some { properties, required, dialect }

def toJson (s : ObjectSchema) : Json :=
  .ofPresent
    [("$schema", s.dialect.map .str),
     ("properties", s.properties.map .obj),
     ("required", Json.nonEmpty .str s.required),
     ("type", some (.str "object"))]

end ObjectSchema

structure Tool where
  annotations : Option ToolAnnotations
  description : Option String
  execution : Option ToolExecution
  icons : List Icon
  inputSchema : ObjectSchema
  info : Option Fields
  name : String
  outputSchema : Option ObjectSchema
  title : Option String
  deriving DecidableEq

namespace Tool

def ofJson? (v : Json) : Option Tool := do
  let r ← v.record? 9
  let annotations ← r.optional 0 "annotations" ToolAnnotations.ofJson?
  let description ← r.optional 1 "description" Json.str?
  let execution ← r.optional 2 "execution" ToolExecution.ofJson?
  let icons ← r.many 3 "icons" Icon.ofJson?
  let inputSchema ← r.required 4 "inputSchema" ObjectSchema.ofJson?
  let info ← r.optional 5 "_meta" Json.openObject?
  let name ← r.required 6 "name" Json.str?
  let outputSchema ← r.optional 7 "outputSchema" ObjectSchema.ofJson?
  let title ← r.optional 8 "title" Json.str?
  some { annotations, description, execution, icons, inputSchema, info, name, outputSchema, title }

def toJson (t : Tool) : Json :=
  .ofPresent
    [("_meta", t.info.map .obj),
     ("annotations", t.annotations.map ToolAnnotations.toJson),
     ("description", t.description.map .str),
     ("execution", t.execution.map ToolExecution.toJson),
     ("icons", Json.nonEmpty Icon.toJson t.icons),
     ("inputSchema", some t.inputSchema.toJson),
     ("name", some (.str t.name)),
     ("outputSchema", t.outputSchema.map ObjectSchema.toJson),
     ("title", t.title.map .str)]

end Tool

/-- One page of a listing; a page that is not the last names the cursor of the next. -/
structure Page (α : Type) where
  info : Option Fields
  nextCursor : Option String
  items : List α
  deriving DecidableEq

namespace Page

variable {α : Type}

/-- The page that holds a whole listing. -/
def whole (items : List α) : Page α :=
  { info := none, nextCursor := none, items }

/-- Reads a page whose items stand under `key`. -/
def ofJson? (key : String) (read : Json → Option α) (v : Json) : Option (Page α) := do
  let r ← v.record? 3
  let info ← r.optional 0 "_meta" Json.openObject?
  let nextCursor ← r.optional 1 "nextCursor" Json.str?
  let items ← r.required 2 key (Json.listOf? read)
  some { info, nextCursor, items }

/-- Every key under which items stand comes after `nextCursor`. -/
def toJson (key : String) (write : α → Json) (page : Page α) : Json :=
  .ofPresent
    [("_meta", page.info.map .obj),
     ("nextCursor", page.nextCursor.map .str),
     (key, some (.arr (page.items.map write)))]

end Page
end ModelContext
