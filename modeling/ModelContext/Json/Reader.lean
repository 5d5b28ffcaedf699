import ModelContext.Json.Basic
import ModelContext.Number.Decimal
import ModelContext.Number.Integer
import ModelContext.Text.Parts
import ModelContext.Text.Utf8

/-!
# Read JSON

`Json.parse?` reads one value from a text, after and before blanks. It refuses what is no JSON by the strict
grammar, without comments or trailing commas, and also surrogates that are not paired, numbers beyond the
floating-point range, and more than `maxNesting` open brackets. Every reader returns what follows the part that it read.

A string under `embeddedKey` is itself the text of a value. An object that begins with this key stands
for that value, and holds nothing else.
-/

namespace ModelContext.Json

/-- How many arrays and objects may be open at once. -/
def maxNesting : Nat := 127

def isSpace (c : Char) : Bool :=
  c == ' ' || c == '\t' || c == '\n' || c == '\r'

def skipSpace (cs : List Char) : List Char :=
  cs.dropWhile isSpace

/-- The code unit that four hexadecimal digits write. -/
def unit? : List Char → Option (Nat × List Char)
  | a :: b :: c :: d :: rest => do
    let a ← hexValue? a
    let b ← hexValue? b
    let c ← hexValue? c
    let d ← hexValue? d
    some (((a * 16 + b) * 16 + c) * 16 + d, rest)
  | _ => none

/-- The character of one code unit or, after the first half of a surrogate pair, of two. -/
def unicodeEscape? (cs : List Char) : Option (Char × List Char) := do
  let (unit, rest) ← unit? cs
  if 0xD800 ≤ unit ∧ unit < 0xDC00 then
    let (low, rest) ← unit? (← Text.after? ['\x5c', 'u'] rest)
    if 0xDC00 ≤ low ∧ low < 0xE000 then
      some (Char.ofNat (0x10000 + (unit - 0xD800) * 0x400 + (low - 0xDC00)), rest)
    else none
  else if 0xDC00 ≤ unit ∧ unit < 0xE000 then none
  else some (Char.ofNat unit, rest)

/-- The character that an escape stands for, read after its backslash. -/
def escaped? : List Char → Option (Char × List Char)
  | '\x22' :: rest => some ('\x22', rest)
  | '\x5c' :: rest => some ('\x5c', rest)
  | '/' :: rest => some ('/', rest)
  | 'b' :: rest => some ('\x08', rest)
  | 'f' :: rest => some ('\x0c', rest)
  | 'n' :: rest => some ('\n', rest)
  | 'r' :: rest => some ('\r', rest)
  | 't' :: rest => some ('\t', rest)
  | 'u' :: rest => unicodeEscape? rest
  | _ => none

/-- The characters of a string up to its closing quote. Each step reads at least one character, so
the length of the text is enough fuel. -/
def stringBody? : (fuel : Nat) → List Char → Option (List Char × List Char)
  | _, [] => none
  | 0, _ => none
  | fuel + 1, c :: cs =>
    if c = '\x22' then some ([], cs)
    else if c = '\x5c' then do
      let (c, rest) ← escaped? cs
      let (body, rest) ← stringBody? fuel rest
      some (c :: body, rest)
    else if c.toNat < 0x20 then none
    else do
      let (body, rest) ← stringBody? fuel cs
      some (c :: body, rest)

/-- A string, read after its opening quote. -/
def string? (cs : List Char) : Option (String × List Char) :=
  (stringBody? cs.length cs).map fun (body, rest) => (String.ofList body, rest)

/-- The decimal digits at the front of a text, and what follows them. -/
def digits (cs : List Char) : List Char × List Char :=
  (cs.takeWhile Char.isDigit, cs.dropWhile Char.isDigit)

/-- The digits after a point, none if there is no point. -/
def fraction? : List Char → Option (Option (List Char) × List Char)
  | '.' :: cs =>
    let (ds, rest) := digits cs
    if ds.isEmpty then none else some (some ds, rest)
  | cs => some (none, cs)

/-- The exponent after `e` or `E`, none if there is no such letter. -/
def exponent? : List Char → Option (Option Int × List Char)
  | c :: cs =>
    if c = 'e' ∨ c = 'E' then
      let (negative, cs) := match cs with
        | '+' :: cs => (false, cs)
        | '-' :: cs => (true, cs)
        | cs => (false, cs)
      let (ds, rest) := digits cs
      if ds.isEmpty then none
      else some (some (decimalValue (if negative then '-' :: ds else ds)), rest)
    else some (none, c :: cs)
  | [] => some (none, [])

/-- Does an integer with a sign and an absolute value fit into a 64-bit word, signed if it has a minus and
unsigned if not? -/
def fitsWord (negative : Bool) (n : Nat) : Bool :=
  if negative then 0 < n && n ≤ 9223372036854775808 else n < 18446744073709551616

/-- A numeral is an integer if it has neither a point nor an exponent and fits into a 64-bit word; a
negative zero is a floating-point number. -/
def numeral? (negative : Bool) (whole : List Char) (fraction : Option (List Char)) (exponent : Option Int) :
    Option Json :=
  let n := Nat.ofDigitChars 10 whole 0
  if fraction.isNone ∧ exponent.isNone ∧ fitsWord negative n then
    some (.int (if negative then -(n : Int) else n))
  else
    (Double.ofDecimal? negative (whole.map digitValue) ((fraction.getD []).map digitValue) (exponent.getD 0)).map
      .float

/-- A number. The digits before the point have no zero in front of others. -/
def number? (cs : List Char) : Option (Json × List Char) := do
  let (negative, cs) := match cs with
    | '-' :: cs => (true, cs)
    | cs => (false, cs)
  let (whole, rest) := digits cs
  if whole.isEmpty ∨ (1 < whole.length ∧ whole.head? = some '0') then none
  else
    let (fraction, rest) ← fraction? rest
    let (exponent, rest) ← exponent? rest
    let v ← numeral? negative whole fraction exponent
    some (v, rest)

/-- The key for a value that is written out as a text. -/
def embeddedKey : String := "$serde_json::private::RawValue"

/-- A string, read with its opening quote. -/
def quotedString? : List Char → Option (String × List Char)
  | '\x22' :: cs => string? cs
  | _ => none

/-- The first key of an object, read after the opening brace. -/
def firstKey? (cs : List Char) : Option String :=
  (quotedString? cs).map (·.1)

/-- The text in an object that holds an embedded value, read after the opening brace. -/
def embeddedText? (cs : List Char) : Option (String × List Char) := do
  let (_, rest) ← quotedString? cs
  let rest ← Text.after? [':'] (skipSpace rest)
  let (text, rest) ← quotedString? (skipSpace rest)
  let rest ← Text.after? ['\x7d'] (skipSpace rest)
  some (text, rest)

mutual

/-- A value; `depth` more brackets may be opened. An embedded text is shorter than the text around it
and opens its own brackets. Between two characters that are read there are at most two calls, so twice
the length of the text is enough fuel. -/
def value? : (fuel depth : Nat) → List Char → Option (Json × List Char)
  | 0, _, _ => none
  | fuel + 1, depth, cs =>
    match skipSpace cs with
    | [] => none
    | c :: rest =>
      if c = 'n' then (Text.after? "ull".toList rest).map (.null, ·)
      else if c = 't' then (Text.after? "rue".toList rest).map (.bool true, ·)
      else if c = 'f' then (Text.after? "alse".toList rest).map (.bool false, ·)
      else if c = '\x22' then (string? rest).map fun (s, rest) => (.str s, rest)
      else if c = '[' then
        match depth, skipSpace rest with
        | 0, _ => none
        | _ + 1, ']' :: rest => some (.arr [], rest)
        | depth + 1, rest => (elements? fuel depth rest).map fun (items, rest) => (.arr items, rest)
      else if c = '\x7b' then
        match depth, skipSpace rest with
        | 0, _ => none
        | _ + 1, '\x7d' :: rest => some (.obj [], rest)
        | depth + 1, rest =>
          if firstKey? rest = some embeddedKey then
            match embeddedText? rest with
            | none => none
            | some (text, rest) => (whole? fuel text.toList).map (·, rest)
          else (members? fuel depth rest).map fun (fields, rest) => (ofFields fields, rest)
      else number? (c :: rest)

/-- The value that a whole text writes. -/
def whole? : (fuel : Nat) → List Char → Option Json
  | 0, _ => none
  | fuel + 1, cs =>
    match value? fuel maxNesting cs with
    | some (v, rest) => if (skipSpace rest).isEmpty then some v else none
    | none => none

/-- The items of an array up to its closing bracket, at least one. -/
def elements? : (fuel depth : Nat) → List Char → Option (List Json × List Char)
  | 0, _, _ => none
  | fuel + 1, depth, cs =>
    match value? fuel depth cs with
    | none => none
    | some (v, rest) =>
      match skipSpace rest with
      | ',' :: rest => (elements? fuel depth rest).map fun (items, rest) => (v :: items, rest)
      | ']' :: rest => some ([v], rest)
      | _ => none

/-- The members of an object up to its closing brace, at least one, in the order of the text. -/
def members? : (fuel depth : Nat) → List Char → Option (Fields × List Char)
  | 0, _, _ => none
  | fuel + 1, depth, cs =>
    match skipSpace cs with
    | '\x22' :: rest =>
      match string? rest with
      | none => none
      | some (key, rest) =>
        match skipSpace rest with
        | ':' :: rest =>
          match value? fuel depth rest with
          | none => none
          | some (v, rest) =>
            match skipSpace rest with
            | ',' :: rest => (members? fuel depth rest).map fun (fields, rest) => ((key, v) :: fields, rest)
            | '\x7d' :: rest => some ([(key, v)], rest)
            | _ => none
        | _ => none
    | _ => none

end

/-- The value that a text writes. -/
def parse? (s : String) : Option Json :=
  let cs := s.toList
  whole? (2 * cs.length + 3) cs

/-- The value that a byte string writes in UTF-8. -/
def parseBytes? (bytes : Bytes) : Option Json :=
  bytes.toText?.bind parse?

end ModelContext.Json
