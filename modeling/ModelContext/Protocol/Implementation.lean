import ModelContext.Json.Record

/-!
# Who speaks

The name and version that client and server tell each other, with icons to show for them.
-/

namespace ModelContext

inductive Theme where
  | dark
  | light
  deriving DecidableEq

namespace Theme

def name : Theme → String
  | dark => "dark"
  | light => "light"

def ofName? : String → Option Theme
  | "dark" => some dark
  | "light" => some light
  | _ => none

def ofJson? (v : Json) : Option Theme :=
  v.caseName?.bind ofName?

end Theme

structure Icon where
  mimeType : Option String
  sizes : List String
  src : String
  theme : Option Theme
  deriving DecidableEq

namespace Icon

def ofJson? (v : Json) : Option Icon := do
  let r ← v.record? 4
  let mimeType ← r.optional 0 "mimeType" Json.str?
  let sizes ← r.many 1 "sizes" Json.str?
  let src ← r.required 2 "src" Json.str?
  let theme ← r.optional 3 "theme" Theme.ofJson?
  some { mimeType, sizes, src, theme }

def toJson (icon : Icon) : Json :=
  .ofPresent
    [("mimeType", icon.mimeType.map .str),
     ("sizes", Json.nonEmpty .str icon.sizes),
     ("src", some (.str icon.src)),
     ("theme", icon.theme.map fun theme => .str theme.name)]

end Icon

structure Implementation where
  description : Option String
  icons : List Icon
  name : String
  title : Option String
  version : String
  websiteUrl : Option String
  deriving DecidableEq

namespace Implementation

/-- A program that tells only its name and version. -/
def plain (name version : String) : Implementation :=
  { description := none, icons := [], name, title := none, version, websiteUrl := none }

def ofJson? (v : Json) : Option Implementation := do
  let r ← v.record? 6
  let description ← r.optional 0 "description" Json.str?
  let icons ← r.many 1 "icons" Icon.ofJson?
  let name ← r.required 2 "name" Json.str?
  let title ← r.optional 3 "title" Json.str?
  let version ← r.required 4 "version" Json.str?
  let websiteUrl ← r.optional 5 "websiteUrl" Json.str?
  some { description, icons, name, title, version, websiteUrl }

def toJson (program : Implementation) : Json :=
  .ofPresent
    [("description", program.description.map .str),
     ("icons", Json.nonEmpty Icon.toJson program.icons),
     ("name", some (.str program.name)),
     ("title", program.title.map .str),
     ("version", some (.str program.version)),
     ("websiteUrl", program.websiteUrl.map .str)]

end Implementation
end ModelContext
