import ModelContext.Number.Integer
import ModelContext.Text.Unprintable

/-!
# Quoted texts

A text between quotes, in which every character can be seen: the quote and the backslash are escaped,
line ends, tabs and the null have escapes of their own, and other characters without a shape are
shown by their code points.
-/

namespace ModelContext.Text

/-- What stands for a character between quotes. -/
def shown (c : Char) : List Char :=
  if c = '\x22' ∨ c = '\x5c' then ['\x5c', c]
  else if c = '\n' then ['\x5c', 'n']
  else if c = '\r' then ['\x5c', 'r']
  else if c = '\t' then ['\x5c', 't']
  else if c = '\x00' then ['\x5c', '0']
  else if isUnprintable c then ['\x5c', 'u', '\x7b'] ++ hexChars c.toNat ++ ['\x7d']
  else [c]

/-- A text between quotes. -/
def quote (s : String) : String :=
  String.ofList ('\x22' :: s.toList.flatMap shown ++ ['\x22'])

end ModelContext.Text
