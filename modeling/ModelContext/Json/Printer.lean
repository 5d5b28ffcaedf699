import ModelContext.Json.Basic
import ModelContext.Number.Integer
import ModelContext.Number.Shortest

/-!
# Written JSON

`Json.text` writes a value without blanks, its fields in the order in which the object holds them.
Strings are written as they are, but for the quote, the backslash and the characters below U+0020.
So no written value holds a line break.
-/

namespace ModelContext.Json

/-- The characters between quotes that stand for a character. -/
def escape (c : Char) : List Char :=
  if c = '\x22' then ['\x5c', '\x22']
  else if c = '\x5c' then ['\x5c', '\x5c']
  else if c = '\x08' then ['\x5c', 'b']
  else if c = '\t' then ['\x5c', 't']
  else if c = '\n' then ['\x5c', 'n']
  else if c = '\x0c' then ['\x5c', 'f']
  else if c = '\r' then ['\x5c', 'r']
  else if c.toNat < 0x20 then ['\x5c', 'u', '0', '0', hexDigit (c.toNat / 16), hexDigit (c.toNat % 16)]
  else [c]

def quoted (s : String) : List Char :=
  '\x22' :: s.toList.flatMap escape ++ ['\x22']

mutual

def chars : Json → List Char
  | .null => "null".toList
  | .bool true => "true".toList
  | .bool false => "false".toList
  | .int n => decimalChars n
  | .float x => x.text
  | .str s => quoted s
  | .arr items => '[' :: itemChars items ++ [']']
  | .obj fields => '\x7b' :: fieldChars fields ++ ['\x7d']

def itemChars : List Json → List Char
  | [] => []
  | [v] => chars v
  | v :: items => chars v ++ ',' :: itemChars items

def fieldChars : List (String × Json) → List Char
  | [] => []
  | [(key, v)] => quoted key ++ ':' :: chars v
  | (key, v) :: fields => quoted key ++ ':' :: chars v ++ ',' :: fieldChars fields

end

/-- The text of a value. -/
def text (v : Json) : String :=
  String.ofList v.chars

/-- The text of a record whose fields keep the order in which they are given. -/
def recordText (fields : Fields) : String :=
  (Json.obj fields).text

end ModelContext.Json
