import ModelContext.Protocol.Method
import ModelContext.Report.Outline

/-!
# Reports of listings

The outlines of the pages that a server hands out.
-/

namespace ModelContext

open Outline

def Theme.outline : Theme → Outline
  | dark => plain "Dark"
  | light => plain "Light"

def Icon.outline (icon : Icon) : Outline :=
  record "Icon"
    [("mime_type", ofOption ofString icon.mimeType), ("sizes", Outline.ofList ofString icon.sizes),
     ("src", ofString icon.src), ("theme", ofOption Theme.outline icon.theme)]

def Role.outline : Role → Outline
  | assistant => plain "Assistant"
  | user => plain "User"

def Annotations.outline (a : Annotations) : Outline :=
  record "Annotations"
    [("audience", Outline.ofList Role.outline a.audience), ("last_modified", ofOption ofString a.lastModified),
     ("priority", ofOption (fun x => plain (String.ofList x.text)) a.priority)]

def PromptArgument.outline (a : PromptArgument) : Outline :=
  record "PromptArgument"
    [("description", ofOption ofString a.description), ("name", ofString a.name),
     ("required", ofOption ofBool a.required), ("title", ofOption ofString a.title)]

def Prompt.outline (p : Prompt) : Outline :=
  record "Prompt"
    [("arguments", Outline.ofList PromptArgument.outline p.arguments),
     ("description", ofOption ofString p.description), ("icons", Outline.ofList Icon.outline p.icons),
     ("meta", ofOption ofObject p.info), ("name", ofString p.name), ("title", ofOption ofString p.title)]

def Resource.outline (r : Resource) : Outline :=
  record "Resource"
    [("annotations", ofOption Annotations.outline r.annotations),
     ("description", ofOption ofString r.description), ("icons", Outline.ofList Icon.outline r.icons),
     ("meta", ofOption ofObject r.info), ("mime_type", ofOption ofString r.mimeType), ("name", ofString r.name),
     ("size", ofOption ofInt r.size), ("title", ofOption ofString r.title), ("uri", ofString r.uri)]

def ResourceTemplate.outline (t : ResourceTemplate) : Outline :=
  record "ResourceTemplate"
    [("annotations", ofOption Annotations.outline t.annotations),
     ("description", ofOption ofString t.description), ("icons", Outline.ofList Icon.outline t.icons),
     ("meta", ofOption ofObject t.info), ("mime_type", ofOption ofString t.mimeType), ("name", ofString t.name),
     ("title", ofOption ofString t.title), ("uri_template", ofString t.uriTemplate)]

def ToolAnnotations.outline (a : ToolAnnotations) : Outline :=
  record "ToolAnnotations"
    [("destructive_hint", ofOption ofBool a.destructiveHint),
     ("idempotent_hint", ofOption ofBool a.idempotentHint),
     ("open_world_hint", ofOption ofBool a.openWorldHint), ("read_only_hint", ofOption ofBool a.readOnlyHint),
     ("title", ofOption ofString a.title)]

def TaskSupport.outline : TaskSupport → Outline
  | forbidden => plain "Forbidden"
  | optional => plain "Optional"
  | required => plain "Required"

def ToolExecution.outline (e : ToolExecution) : Outline :=
  record "ToolExecution" [("task_support", ofOption TaskSupport.outline e.taskSupport)]

def ObjectSchema.outline (name : String) (s : ObjectSchema) : Outline :=
  record name
    [("properties", ofOption ofObjects s.properties), ("required", Outline.ofList ofString s.required),
     ("schema", ofOption ofString s.dialect), ("type_", ofString "object")]

def Tool.outline (t : Tool) : Outline :=
  record "Tool"
    [("annotations", ofOption ToolAnnotations.outline t.annotations),
     ("description", ofOption ofString t.description),
     ("execution", ofOption ToolExecution.outline t.execution), ("icons", Outline.ofList Icon.outline t.icons),
     ("input_schema", t.inputSchema.outline "ToolInputSchema"), ("meta", ofOption ofObject t.info),
     ("name", ofString t.name), ("output_schema", ofOption (ObjectSchema.outline "ToolOutputSchema") t.outputSchema),
     ("title", ofOption ofString t.title)]

namespace Listing

/-- The name under which a page is reported. -/
def reportName : Listing → String
  | prompts => "ListPromptsResult"
  | resources => "ListResourcesResult"
  | templates => "ListResourceTemplatesResult"
  | tools => "ListToolsResult"

def reportKey : Listing → String
  | prompts => "prompts"
  | resources => "resources"
  | templates => "resource_templates"
  | tools => "tools"

def itemOutline : (listing : Listing) → listing.Item → Outline
  | prompts => Prompt.outline
  | resources => Resource.outline
  | templates => ResourceTemplate.outline
  | tools => Tool.outline

def outline (listing : Listing) (page : Page listing.Item) : Outline :=
  record listing.reportName
    [("meta", ofOption ofObject page.info), ("next_cursor", ofOption ofString page.nextCursor),
     (listing.reportKey, Outline.ofList listing.itemOutline page.items)]

end Listing
end ModelContext
