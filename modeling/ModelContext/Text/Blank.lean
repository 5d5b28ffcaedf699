/-!
# White space in Unicode texts

`isBlank` is the Unicode property White_Space. `trim` cuts it from both ends of a text, and
`words` splits a text into its maximal runs of other characters. Case folding is for `A` to `Z`
alone, since every name that is compared without regard to case is ASCII.
-/

namespace ModelContext.Text

/-- The code points with the property White_Space, as closed ranges. -/
def blankRanges : List (Nat × Nat) :=
  [(0x09, 0x0D), (0x20, 0x20), (0x85, 0x85), (0xA0, 0xA0), (0x1680, 0x1680), (0x2000, 0x200A),
   (0x2028, 0x2029), (0x202F, 0x202F), (0x205F, 0x205F), (0x3000, 0x3000)]

def isBlank (c : Char) : Bool :=
  blankRanges.any fun range => range.1 ≤ c.toNat && c.toNat ≤ range.2

/-- The property has twenty-five characters. -/
example : (blankRanges.map fun range => range.2 + 1 - range.1).sum = 25 := by decide

/-- Drops what satisfies `p` from the end of a list. -/
def dropEndWhile {α : Type} (p : α → Bool) (xs : List α) : List α :=
  (xs.reverse.dropWhile p).reverse

/-- Cuts what satisfies `p` from both ends of a list. -/
def strip {α : Type} (p : α → Bool) (xs : List α) : List α :=
  dropEndWhile p (xs.dropWhile p)

/-- A text without the white space at its two ends. -/
def trim (s : String) : String :=
  String.ofList (strip isBlank s.toList)

/-- The maximal runs of non-blank characters, in order. -/
def runs : List Char → List (List Char)
  | [] => []
  | c :: cs =>
    if isBlank c then runs cs
    else match cs, runs cs with
      | d :: _, run :: later => if isBlank d then [c] :: run :: later else (c :: run) :: later
      | _, later => [c] :: later

/-- The words of a text: its runs of non-blank characters. -/
def words (s : String) : List String :=
  (runs s.toList).map String.ofList

example : words " a\u00a0bc\t " = ["a", "bc"] := by decide

/-- Does `part` stand somewhere in the list? -/
def occursIn (part : List Char) : List Char → Bool
  | [] => part.isEmpty
  | c :: cs => part.isPrefixOf (c :: cs) || occursIn part cs

theorem occursIn_iff {part cs : List Char} : occursIn part cs = true ↔ part <:+: cs := by
  induction cs with
  | nil => simp [occursIn]
  | cons c cs ih => simp [occursIn, ih, List.infix_cons_iff]

/-- A text with `A` to `Z` made small and every other character kept. -/
def lowerAscii (s : String) : String :=
  String.ofList (s.toList.map Char.toLower)

end ModelContext.Text
