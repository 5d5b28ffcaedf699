import ModelContext.Json.Reader

/-!
# Embedded values

A record may hold objects of any form. When such a part is taken over into the record, an object in it
that begins with `embeddedKey` stands for the value that its text writes, as it does in a text. Most
values hold no such object and stay as they are.
-/

namespace ModelContext.Json

mutual

/-- The value with its embedded values in place; none if an object begins with the key for them and
holds no text of a value, or anything else. -/
def expand? : Json → Option Json
  | .arr items => (expandItems? items).map .arr
  | .obj [] => some (.obj [])
  | .obj ((key, v) :: fields) =>
    if key = embeddedKey then
      match v, fields with
      | .str text, [] => parse? text
      | _, _ => none
    else (expandFields? ((key, v) :: fields)).map .obj
  | v => some v

def expandItems? : List Json → Option (List Json)
  | [] => some []
  | v :: items => do
    let v ← expand? v
    let items ← expandItems? items
    some (v :: items)

/-- The fields of an object that has no key for an embedded value, or not as its first. -/
def expandFields? : List (String × Json) → Option (List (String × Json))
  | [] => some []
  | (key, v) :: fields => do
    let v ← expand? v
    let fields ← expandFields? fields
    some ((key, v) :: fields)

end

/-- The fields of an object of any form. Its own keys are taken as they are. -/
def openObject? (v : Json) : Option Fields :=
  v.fields?.bind expandFields?

/-- An object whose values are objects of any form. -/
def openObjects? (v : Json) : Option Fields :=
  v.fields?.bind fun fields =>
    fields.mapM fun field => (openObject? field.2).map fun inner => (field.1, .obj inner)

end ModelContext.Json
