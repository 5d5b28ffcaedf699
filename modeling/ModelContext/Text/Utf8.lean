/-!
# Bytes and the texts that they encode

Input arrives as bytes. `Bytes.toText?` reads them as UTF-8 and refuses what is not valid, and
`Bytes.toTextLossy` reads every byte string, with U+FFFD in the place of each maximal part that
does not begin a character. `Bytes.ofText` writes a text.
-/

namespace ModelContext

abbrev Bytes := List UInt8

namespace Bytes

/-- The UTF-8 form of a text. -/
def ofText (s : String) : Bytes :=
  s.toByteArray.data.toList

/-- The text that the bytes encode, if they are valid UTF-8. -/
def toText? (bytes : Bytes) : Option String :=
  String.fromUTF8? ⟨bytes.toArray⟩

theorem toText?_ofText (s : String) : toText? (ofText s) = some s := by
  simp [toText?, ofText, String.fromUTF8?, String.fromUTF8, s.isValidUTF8]

/-- What the first byte of a sequence announces: the payload bits that it holds itself, the range
of the byte that must follow it, and the number of plain continuation bytes after that one. -/
structure Lead where
  bits : Nat
  low : Nat
  high : Nat
  more : Nat

/-- The leads of sequences of two to four bytes. The narrowed ranges of the second byte keep out
overlong forms, surrogates and code points above U+10FFFF. -/
def lead? (b : Nat) : Option Lead :=
  if 0xC2 ≤ b ∧ b ≤ 0xDF then some ⟨b - 0xC0, 0x80, 0xBF, 0⟩
  else if b = 0xE0 then some ⟨0, 0xA0, 0xBF, 1⟩
  else if b = 0xED then some ⟨13, 0x80, 0x9F, 1⟩
  else if 0xE1 ≤ b ∧ b ≤ 0xEF then some ⟨b - 0xE0, 0x80, 0xBF, 1⟩
  else if b = 0xF0 then some ⟨0, 0x90, 0xBF, 2⟩
  else if 0xF1 ≤ b ∧ b ≤ 0xF3 then some ⟨b - 0xF0, 0x80, 0xBF, 2⟩
  else if b = 0xF4 then some ⟨4, 0x80, 0x8F, 2⟩
  else none

/-- The character that stands for an undecodable part. -/
def replacement : Char := Char.ofNat 0xFFFD

/-- Reads `more` continuation bytes onto the payload `bits`; where one is missing, what was read so
far counts as one undecodable part. The rest of the input comes with the character. -/
def continuation (bits : Nat) : Nat → Bytes → Char × Bytes
  | 0, rest => (Char.ofNat bits, rest)
  | _ + 1, [] => (replacement, [])
  | more + 1, b :: rest =>
    if 0x80 ≤ b.toNat ∧ b.toNat ≤ 0xBF then continuation (bits * 64 + (b.toNat - 0x80)) more rest
    else (replacement, b :: rest)

theorem length_continuation_le (bits more : Nat) (rest : Bytes) :
    (continuation bits more rest).2.length ≤ rest.length := by
  fun_induction continuation bits more rest with
  | case1 => simp
  | case2 => simp
  | case3 bits more b rest _ ih => exact Nat.le_succ_of_le ih
  | case4 => simp

/-- The first character of the bytes `b :: rest`, and what follows it. -/
def firstLossy (b : UInt8) (rest : Bytes) : Char × Bytes :=
  if b.toNat < 0x80 then (Char.ofNat b.toNat, rest)
  else match lead? b.toNat, rest with
    | some lead, c :: rest' =>
      if lead.low ≤ c.toNat ∧ c.toNat ≤ lead.high then
        continuation (lead.bits * 64 + (c.toNat - 0x80)) lead.more rest'
      else (replacement, rest)
    | _, _ => (replacement, rest)

theorem length_firstLossy_le (b : UInt8) (rest : Bytes) :
    (firstLossy b rest).2.length ≤ rest.length := by
  unfold firstLossy
  split
  · simp
  · split
    · split
      · exact Nat.le_succ_of_le (length_continuation_le _ _ _)
      · simp
    · simp

/-- The characters of a byte string, undecodable parts replaced. -/
def charsLossy : Bytes → List Char
  | [] => []
  | b :: rest =>
    let step := firstLossy b rest
    step.1 :: charsLossy step.2
termination_by bytes => bytes.length
decreasing_by
  exact Nat.lt_succ_of_le (length_firstLossy_le b rest)

/-- The text of a byte string, undecodable parts replaced. -/
def toTextLossy (bytes : Bytes) : String :=
  String.ofList (charsLossy bytes)

end Bytes
end ModelContext
