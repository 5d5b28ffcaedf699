import ModelContext.Json.Printer
import ModelContext.Text.Quoted

/-!
# Outlines

A report shows a value as an outline: what a record, a list or a table holds stands on lines of its
own, four columns further in, each with a comma after it.
-/

namespace ModelContext

inductive Outline where
  /-- What fits on one line. -/
  | plain (text : String)
  | record (name : String) (fields : List (String × Outline))
  | list (items : List Outline)
  | table (entries : List (String × Outline))
  /-- A value that may be absent, and is not. -/
  | present (value : Outline)
  /-- A value with a word in front of it. -/
  | labelled (label : String) (value : Outline)

namespace Outline

/-- Puts text in front of the first line. -/
def prepend (text : String) : List String → List String
  | [] => [text]
  | line :: lines => (text ++ line) :: lines

/-- An entry of what is outlined: further in, with a comma after it. -/
def entry (lines : List String) : List String :=
  let indented := lines.map ("    " ++ ·)
  match indented.getLast? with
  | some last => indented.dropLast ++ [last ++ ","]
  | none => []

mutual

/-- The lines of an outline. -/
def lines : Outline → List String
  | plain text => [text]
  | record name fields => (name ++ " \x7b") :: fieldLines fields ++ ["\x7d"]
  | list [] => ["[]"]
  | list items => "[" :: itemLines items ++ ["]"]
  | table [] => ["\x7b\x7d"]
  | table entries => "\x7b" :: entryLines entries ++ ["\x7d"]
  | present value => "Some(" :: entry (lines value) ++ [")"]
  | labelled label value => prepend (label ++ " ") (lines value)

def itemLines : List Outline → List String
  | [] => []
  | item :: items => entry (lines item) ++ itemLines items

def fieldLines : List (String × Outline) → List String
  | [] => []
  | (name, value) :: fields => entry (prepend (name ++ ": ") (lines value)) ++ fieldLines fields

def entryLines : List (String × Outline) → List String
  | [] => []
  | (key, value) :: entries => entry (prepend (Text.quote key ++ ": ") (lines value)) ++ entryLines entries

end

/-! ## Outlines of simple values -/

def ofString (s : String) : Outline :=
  plain (Text.quote s)

def ofBool (b : Bool) : Outline :=
  plain (if b then "true" else "false")

def ofInt (n : Int) : Outline :=
  plain (decimalText n)

def ofOption {α : Type} (outline : α → Outline) : Option α → Outline
  | none => plain "None"
  | some a => present (outline a)

def ofList {α : Type} (outline : α → Outline) (items : List α) : Outline :=
  list (items.map outline)

mutual

/-- The outline of a JSON value, which tells the kind of every part. -/
def ofJson : Json → Outline
  | .null => plain "Null"
  | .bool b => plain ("Bool(" ++ (if b then "true" else "false") ++ ")")
  | .int n => plain ("Number(" ++ decimalText n ++ ")")
  | .float x => plain ("Number(" ++ String.ofList x.text ++ ")")
  | .str s => plain ("String(" ++ Text.quote s ++ ")")
  | .arr items => labelled "Array" (list (ofItems items))
  | .obj fields => labelled "Object" (table (ofFields fields))

def ofItems : List Json → List Outline
  | [] => []
  | v :: items => ofJson v :: ofItems items

def ofFields : List (String × Json) → List (String × Outline)
  | [] => []
  | (key, v) :: fields => (key, ofJson v) :: ofFields fields

end

/-- The outline of an object whose kind is known. -/
def ofObject (fields : Fields) : Outline :=
  table (ofFields fields)

/-- The outline of an object whose values are objects, which is known too. -/
def ofObjects (fields : Fields) : Outline :=
  table (fields.map fun field => (field.1, ofObject (field.2.fields?.getD [])))

end Outline
end ModelContext
