import ModelContext.Protocol.Listing

/-!
# What a server returns

The content blocks of a tool's result and the contents of a resource. A block is told by its type
and a resource's contents by the field that they have, so each is read as the first form that fits.
-/

namespace ModelContext

/-- The contents of a resource: a text, or bytes in a textual encoding. -/
inductive ResourceContents where
  | text (info : Option Fields) (mimeType : Option String) (text uri : String)
  | blob (blob : String) (info : Option Fields) (mimeType : Option String) (uri : String)
  deriving DecidableEq

namespace ResourceContents

def ofTextJson? (v : Json) : Option ResourceContents := do
  let r ← v.record? 4
  let info ← r.optional 0 "_meta" Json.openObject?
  let mimeType ← r.optional 1 "mimeType" Json.str?
  let text ← r.required 2 "text" Json.str?
  let uri ← r.required 3 "uri" Json.str?
  some (.text info mimeType text uri)

def ofBlobJson? (v : Json) : Option ResourceContents := do
  let r ← v.record? 4
  let blob ← r.required 0 "blob" Json.str?
  let info ← r.optional 1 "_meta" Json.openObject?
  let mimeType ← r.optional 2 "mimeType" Json.str?
  let uri ← r.required 3 "uri" Json.str?
  some (.blob blob info mimeType uri)

def ofJson? (v : Json) : Option ResourceContents :=
  ofTextJson? v <|> ofBlobJson? v

def toJson : ResourceContents → Json
  | .text info mimeType body uri =>
    .ofPresent
      [("_meta", info.map .obj), ("mimeType", mimeType.map .str), ("text", some (.str body)), ("uri", some (.str uri))]
  | .blob data info mimeType uri =>
    .ofPresent
      [("_meta", info.map .obj), ("blob", some (.str data)), ("mimeType", mimeType.map .str), ("uri", some (.str uri))]

end ResourceContents

/-- Images and sounds have the same fields. -/
inductive Medium where
  | image
  | audio
  deriving DecidableEq

def Medium.name : Medium → String
  | image => "image"
  | audio => "audio"

inductive ContentBlock where
  | text (annotations : Option Annotations) (info : Option Fields) (text : String)
  | media (medium : Medium) (annotations : Option Annotations) (data : String) (info : Option Fields)
      (mimeType : String)
  | link (resource : Resource)
  | embedded (annotations : Option Annotations) (info : Option Fields) (resource : ResourceContents)
  deriving DecidableEq

namespace ContentBlock

def ofTextJson? (v : Json) : Option ContentBlock := do
  let r ← v.record? 4
  let annotations ← r.optional 0 "annotations" Annotations.ofJson?
  let info ← r.optional 1 "_meta" Json.openObject?
  let text ← r.required 2 "text" Json.str?
  let _ ← r.required 3 "type" (Json.literal? "text")
  some (.text annotations info text)

def ofMediaJson? (medium : Medium) (v : Json) : Option ContentBlock := do
  let r ← v.record? 5
  let annotations ← r.optional 0 "annotations" Annotations.ofJson?
  let data ← r.required 1 "data" Json.str?
  let info ← r.optional 2 "_meta" Json.openObject?
  let mimeType ← r.required 3 "mimeType" Json.str?
  let _ ← r.required 4 "type" (Json.literal? medium.name)
  some (.media medium annotations data info mimeType)

/-- A link has the fields of a resource, and its type before the last of them. -/
def ofLinkJson? (v : Json) : Option ContentBlock := do
  let r ← v.record? 10
  let annotations ← r.optional 0 "annotations" Annotations.ofJson?
  let description ← r.optional 1 "description" Json.str?
  let icons ← r.many 2 "icons" Icon.ofJson?
  let info ← r.optional 3 "_meta" Json.openObject?
  let mimeType ← r.optional 4 "mimeType" Json.str?
  let name ← r.required 5 "name" Json.str?
  let size ← r.optional 6 "size" Json.int64?
  let title ← r.optional 7 "title" Json.str?
  let _ ← r.required 8 "type" (Json.literal? "resource_link")
  let uri ← r.required 9 "uri" Json.str?
  some (.link { annotations, description, icons, info, mimeType, name, size, title, uri })

def ofEmbeddedJson? (v : Json) : Option ContentBlock := do
  let r ← v.record? 4
  let annotations ← r.optional 0 "annotations" Annotations.ofJson?
  let info ← r.optional 1 "_meta" Json.openObject?
  let resource ← r.required 2 "resource" ResourceContents.ofJson?
  let _ ← r.required 3 "type" (Json.literal? "resource")
  some (.embedded annotations info resource)

def ofJson? (v : Json) : Option ContentBlock :=
  ofTextJson? v <|> ofMediaJson? .image v <|> ofMediaJson? .audio v <|> ofLinkJson? v <|> ofEmbeddedJson? v

def toJson : ContentBlock → Json
  | .text annotations info body =>
    .ofPresent
      [("_meta", info.map .obj), ("annotations", annotations.map Annotations.toJson),
       ("text", some (.str body)), ("type", some (.str "text"))]
  | .media medium annotations data info mimeType =>
    .ofPresent
      [("_meta", info.map .obj), ("annotations", annotations.map Annotations.toJson),
       ("data", some (.str data)), ("mimeType", some (.str mimeType)), ("type", some (.str medium.name))]
  | .link r =>
    .ofPresent
      [("_meta", r.info.map .obj), ("annotations", r.annotations.map Annotations.toJson),
       ("description", r.description.map .str), ("icons", Json.nonEmpty Icon.toJson r.icons),
       ("mimeType", r.mimeType.map .str), ("name", some (.str r.name)), ("size", r.size.map .int),
       ("title", r.title.map .str), ("type", some (.str "resource_link")), ("uri", some (.str r.uri))]
  | .embedded annotations info resource =>
    .ofPresent
      [("_meta", info.map .obj), ("annotations", annotations.map Annotations.toJson),
       ("resource", some resource.toJson), ("type", some (.str "resource"))]

end ContentBlock

/-- The result of a tool call. A call that failed in the tool itself is a result too. -/
structure CallToolResult where
  content : List ContentBlock
  isError : Option Bool
  info : Option Fields
  structuredContent : Option Fields
  deriving DecidableEq

namespace CallToolResult

def ofJson? (v : Json) : Option CallToolResult := do
  let r ← v.record? 4
  let content ← r.required 0 "content" (Json.listOf? ContentBlock.ofJson?)
  let isError ← r.optional 1 "isError" Json.bool?
  let info ← r.optional 2 "_meta" Json.openObject?
  let structuredContent ← r.optional 3 "structuredContent" Json.openObject?
  some { content, isError, info, structuredContent }

def toJson (result : CallToolResult) : Json :=
  .ofPresent
    [("_meta", result.info.map .obj),
     ("content", some (.arr (result.content.map ContentBlock.toJson))),
     ("isError", result.isError.map .bool),
     ("structuredContent", result.structuredContent.map .obj)]

end CallToolResult

structure ReadResourceResult where
  contents : List ResourceContents
  info : Option Fields
  deriving DecidableEq

namespace ReadResourceResult

def ofJson? (v : Json) : Option ReadResourceResult := do
  let r ← v.record? 2
  let contents ← r.required 0 "contents" (Json.listOf? ResourceContents.ofJson?)
  let info ← r.optional 1 "_meta" Json.openObject?
  some { contents, info }

def toJson (result : ReadResourceResult) : Json :=
  .ofPresent
    [("_meta", result.info.map .obj),
     ("contents", some (.arr (result.contents.map ResourceContents.toJson)))]

end ReadResourceResult
end ModelContext
