import ModelContext.Json.Embedded

/-!
# Records

A record is written as an object that names its fields, or as an array of them in their declared
order. Fields that a record does not declare are dropped from an object and refused in an array.
A field is required, or optional (missing and null are the same), or a list that is empty when it
is missing.
-/

namespace ModelContext

/-- A record as it was written, by names or by places. -/
inductive Record where
  | named (fields : Fields)
  | listed (items : List Json)

namespace Record

variable {α : Type}

/-- The value of the field that is called `name` and is declared at `place`. -/
def member? (r : Record) (place : Nat) (name : String) : Option Json :=
  match r with
  | .named fields => fields.lookup name
  | .listed items => items[place]?

def required (r : Record) (place : Nat) (name : String) (read : Json → Option α) : Option α :=
  (r.member? place name).bind read

def optional (r : Record) (place : Nat) (name : String) (read : Json → Option α) : Option (Option α) :=
  match r.member? place name with
  | none => some none
  | some v => if v.isNull then some none else (read v).map some

def many (r : Record) (place : Nat) (name : String) (read : Json → Option α) : Option (List α) :=
  match r.member? place name with
  | none => some []
  | some v => v.items?.bind (·.mapM read)

end Record

namespace Json

/-- A value as a record with `arity` declared fields. -/
def record? (arity : Nat) : Json → Option Record
  | .obj fields => some (.named fields)
  | .arr items => if items.length ≤ arity then some (.listed items) else none
  | _ => none

/-- A value that is an array of what `read` reads. -/
def listOf? {α : Type} (read : Json → Option α) (v : Json) : Option (List α) :=
  v.items?.bind (·.mapM read)

/-- The name of a case that has no data: a text, or an object with nothing but a null under the name. -/
def caseName? : Json → Option String
  | .str name => some name
  | .obj [(name, .null)] => some name
  | _ => none

/-- One fixed text. -/
def literal? (expected : String) (v : Json) : Option Unit :=
  v.str?.bind fun s => if s = expected then some () else none

/-- The written list of a field that is left out when it is empty. -/
def nonEmpty {α : Type} (write : α → Json) (items : List α) : Option Json :=
  if items.isEmpty then none else some (.arr (items.map write))

end Json
end ModelContext
