import ModelContext.Http.Message
import Mathlib.Data.List.Basic
import Mathlib.Data.List.TakeWhile
import Mathlib.Tactic.IntervalCases

/-!
# Texts as bytes

The bytes of a text are those of its characters. A byte string that encodes a text is read as that text
also where undecodable parts would be replaced, and it can be cut at an ASCII character into two such byte
strings. A header of visible characters is received and read as it was written.
-/

namespace ModelContext

def Text.IsVisible (c : Char) : Prop :=
  0x21 ≤ c.toNat ∧ c.toNat ≤ 0x7E

instance : DecidablePred Text.IsVisible :=
  fun c => inferInstanceAs (Decidable (0x21 ≤ c.toNat ∧ c.toNat ≤ 0x7E))

theorem Text.isBlank_of_visible {c : Char} (hc : Text.IsVisible c) : Text.isBlank c = false := by
  obtain ⟨hlow, hhigh⟩ := hc
  simp only [Text.isBlank, Text.blankRanges, List.any_cons, List.any_nil, Bool.or_false, Bool.or_eq_false_iff,
    Bool.and_eq_false_iff, decide_eq_false_iff_not]
  omega

namespace Text

theorem dropWhile_eq_self {α : Type} {p : α → Bool} {xs : List α} (h : ∀ x ∈ xs.head?, p x = false) :
    xs.dropWhile p = xs := by
  cases xs with
  | nil => rfl
  | cons x xs => rw [List.dropWhile_cons_of_neg (by simp [h x rfl])]

/-- Nothing is cut from a list whose ends are kept. -/
theorem strip_eq_self {α : Type} {p : α → Bool} {xs : List α} (hhead : ∀ x ∈ xs.head?, p x = false)
    (hlast : ∀ x ∈ xs.getLast?, p x = false) : strip p xs = xs := by
  rw [strip, dropWhile_eq_self hhead, dropEndWhile, dropWhile_eq_self, List.reverse_reverse]
  rwa [List.head?_reverse]

theorem dropWhile_append_of_stop {α : Type} {p : α → Bool} {xs ys : List α} (h : ∀ y ∈ ys.head?, p y = false) :
    (xs ++ ys).dropWhile p = xs.dropWhile p ++ ys := by
  rw [List.dropWhile_append]
  split
  · rename_i hall
    rw [dropWhile_eq_self h, List.isEmpty_iff.1 hall, List.nil_append]
  · rfl

theorem dropEndWhile_append_of_stop {α : Type} {p : α → Bool} {xs ys : List α} (h : ∀ x ∈ xs.getLast?, p x = false) :
    dropEndWhile p (xs ++ ys) = xs ++ dropEndWhile p ys := by
  rw [← List.head?_reverse] at h
  rw [dropEndWhile, List.reverse_append, dropWhile_append_of_stop h, List.reverse_append, List.reverse_reverse,
    dropEndWhile]

/-- What is cut at the front of a list anyway does not matter. -/
theorem strip_append_left {α : Type} {p : α → Bool} {front : List α} (h : ∀ x ∈ front, p x = true) (xs : List α) :
    strip p (front ++ xs) = strip p xs := by
  rw [strip, List.dropWhile_append_of_pos h, strip]

theorem strip_append_right {α : Type} {p : α → Bool} {back : List α} (h : ∀ x ∈ back, p x = true) (xs : List α) :
    strip p (xs ++ back) = strip p xs := by
  rw [strip, strip, List.dropWhile_append]
  split
  · rename_i hall
    rw [List.dropWhile_eq_nil_iff.2 h, List.isEmpty_iff.1 hall]
  · rw [dropEndWhile, List.reverse_append, List.dropWhile_append_of_pos fun x hx => h x (List.mem_reverse.1 hx)]
    rfl

/-- A part of a list stays if neither of its ends is cut. -/
theorem infix_strip {α : Type} {p : α → Bool} {part xs : List α} (hpart : part <:+: xs) (hne : part ≠ [])
    (hhead : ∀ x ∈ part.head?, p x = false) (hlast : ∀ x ∈ part.getLast?, p x = false) :
    part <:+: strip p xs := by
  obtain ⟨front, back, rfl⟩ := hpart
  have hstart : ∀ x ∈ (part ++ back).head?, p x = false := by
    cases part with
    | nil => exact absurd rfl hne
    | cons c part => exact hhead
  have hend : ∀ x ∈ (front.dropWhile p ++ part).getLast?, p x = false := by
    rw [List.getLast?_append_of_ne_nil _ hne]
    exact hlast
  refine ⟨front.dropWhile p, dropEndWhile p back, ?_⟩
  rw [strip, List.append_assoc front, dropWhile_append_of_stop hstart, ← List.append_assoc,
    dropEndWhile_append_of_stop hend]

theorem strip_map {α β : Type} (p : β → Bool) (f : α → β) (xs : List α) :
    strip p (xs.map f) = (strip (p ∘ f) xs).map f := by
  rw [strip, strip, dropEndWhile, dropEndWhile, List.dropWhile_map, ← List.map_reverse, List.dropWhile_map,
    List.map_reverse]

theorem trim_pad {front back : String} (hfront : ∀ c ∈ front.toList, isBlank c = true)
    (hback : ∀ c ∈ back.toList, isBlank c = true) (s : String) : trim (front ++ s ++ back) = trim s := by
  rw [trim, String.toList_append, String.toList_append, strip_append_right hback, strip_append_left hfront, trim]

theorem trim_eq_self {s : String} (hhead : ∀ c ∈ s.toList.head?, isBlank c = false)
    (hlast : ∀ c ∈ s.toList.getLast?, isBlank c = false) : trim s = s := by
  rw [trim, strip_eq_self hhead hlast, String.ofList_toList]

theorem trim_of_visible {s : String} (hs : ∀ c ∈ s.toList, IsVisible c) : trim s = s := by
  apply trim_eq_self
  · exact fun c hc => isBlank_of_visible (hs c (List.mem_of_mem_head? hc))
  · exact fun c hc => isBlank_of_visible (hs c (List.mem_of_getLast? hc))

end Text

namespace Bytes

theorem ofText_eq (s : String) : ofText s = s.toList.flatMap String.utf8EncodeChar := by
  rw [ofText, ← String.utf8Encode_toList, List.utf8Encode, List.data_toByteArray]

theorem ofText_append (s t : String) : ofText (s ++ t) = ofText s ++ ofText t := by
  rw [ofText_eq, ofText_eq, ofText_eq, String.toList_append, List.flatMap_append]

/-! ## Characters -/

theorem ofText_ne_nil {s : String} (hs : s ≠ "") : ofText s ≠ [] := by
  intro hnil
  have htext := toText?_ofText s
  rw [hnil] at htext
  exact hs (Option.some.inj htext).symm

theorem toNat_ofNat_of_lt {n : Nat} (hn : n < 256) : (UInt8.ofNat n).toNat = n := by
  rw [UInt8.toNat_ofNat']
  exact Nat.mod_eq_of_lt hn

theorem lead?_two {k : Nat} (hlow : 2 ≤ k) (hhigh : k < 32) : lead? (k + 0xC0) = some ⟨k, 0x80, 0xBF, 0⟩ := by
  interval_cases k <;> rfl

/-- Leads of three bytes; the second byte is narrowed to keep out overlong forms and surrogates. -/
theorem lead?_three {k : Nat} (hk : k < 16) :
    lead? (k + 0xE0) = some ⟨k, if k = 0 then 0xA0 else 0x80, if k = 13 then 0x9F else 0xBF, 1⟩ := by
  interval_cases k <;> rfl

/-- Leads of four bytes; the second byte is narrowed to keep out overlong forms and what is too large. -/
theorem lead?_four {k : Nat} (hk : k < 5) :
    lead? (k + 0xF0) = some ⟨k, if k = 0 then 0x90 else 0x80, if k = 4 then 0x8F else 0xBF, 2⟩ := by
  interval_cases k <;> rfl

theorem firstLossy_lead {b c : UInt8} {lead : Lead} (rest : Bytes) (hb : 0x80 ≤ b.toNat)
    (hlead : lead? b.toNat = some lead) (hc : lead.low ≤ c.toNat ∧ c.toNat ≤ lead.high) :
    firstLossy b (c :: rest) = continuation (lead.bits * 64 + (c.toNat - 0x80)) lead.more rest := by
  unfold firstLossy
  rw [if_neg (Nat.not_lt.2 hb), hlead]
  exact if_pos hc

theorem continuation_succ {b : UInt8} (bits more : Nat) (rest : Bytes) (hb : 0x80 ≤ b.toNat ∧ b.toNat ≤ 0xBF) :
    continuation bits (more + 1) (b :: rest) = continuation (bits * 64 + (b.toNat - 0x80)) more rest := by
  rw [continuation, if_pos hb]

/-! The forms of one to four bytes, one for each branch of `String.utf8EncodeChar`. -/

section Forms

variable {v : Nat} (rest : Bytes)

theorem firstLossy_one (h : v < 0x80) : firstLossy (UInt8.ofNat v) rest = (Char.ofNat v, rest) := by
  unfold firstLossy
  rw [toNat_ofNat_of_lt (by omega), if_pos h]

theorem firstLossy_two (hlow : 0x80 ≤ v) (hhigh : v < 0x800) :
    firstLossy (UInt8.ofNat (v / 64 % 0x20 + 0xC0)) (UInt8.ofNat (v % 0x40 + 0x80) :: rest) =
      (Char.ofNat v, rest) := by
  have hbits : v / 64 % 0x20 = v / 64 := by omega
  have hfirst : (UInt8.ofNat (v / 64 + 0xC0)).toNat = v / 64 + 0xC0 := toNat_ofNat_of_lt (by omega)
  have hsecond : (UInt8.ofNat (v % 0x40 + 0x80)).toNat = v % 0x40 + 0x80 := toNat_ofNat_of_lt (by omega)
  have hlead := lead?_two (k := v / 64) (by omega) (by omega)
  have hvalue : v / 64 * 64 + (v % 0x40 + 0x80 - 0x80) = v := by omega
  rw [← hfirst] at hlead
  rw [hbits, firstLossy_lead rest (by omega) hlead, hsecond, continuation, hvalue]
  constructor
  · dsimp only
    omega
  · dsimp only
    omega

theorem firstLossy_three (hlow : 0x800 ≤ v) (hhigh : v < 0x10000) (hvalid : v < 0xD800 ∨ 0xDFFF < v) :
    firstLossy (UInt8.ofNat (v / 4096 % 0x10 + 0xE0))
        (UInt8.ofNat (v / 64 % 0x40 + 0x80) :: UInt8.ofNat (v % 0x40 + 0x80) :: rest) = (Char.ofNat v, rest) := by
  have hbits : v / 4096 % 0x10 = v / 4096 := by omega
  have hfirst : (UInt8.ofNat (v / 4096 + 0xE0)).toNat = v / 4096 + 0xE0 := toNat_ofNat_of_lt (by omega)
  have hsecond : (UInt8.ofNat (v / 64 % 0x40 + 0x80)).toNat = v / 64 % 0x40 + 0x80 := toNat_ofNat_of_lt (by omega)
  have hthird : (UInt8.ofNat (v % 0x40 + 0x80)).toNat = v % 0x40 + 0x80 := toNat_ofNat_of_lt (by omega)
  have hlead := lead?_three (k := v / 4096) (by omega)
  have hvalue : (v / 4096 * 64 + (v / 64 % 0x40 + 0x80 - 0x80)) * 64 + (v % 0x40 + 0x80 - 0x80) = v := by omega
  rw [← hfirst] at hlead
  rw [hbits, firstLossy_lead _ (by omega) hlead]
  · dsimp only
    rw [continuation_succ _ _ _ (by omega), hsecond, hthird, continuation, hvalue]
  · dsimp only
    constructor
    · split <;> omega
    · split <;> omega

theorem firstLossy_four (hlow : 0x10000 ≤ v) (hhigh : v < 0x110000) :
    firstLossy (UInt8.ofNat (v / 262144 % 0x08 + 0xF0)) (UInt8.ofNat (v / 4096 % 0x40 + 0x80) ::
        UInt8.ofNat (v / 64 % 0x40 + 0x80) :: UInt8.ofNat (v % 0x40 + 0x80) :: rest) = (Char.ofNat v, rest) := by
  have hbits : v / 262144 % 0x08 = v / 262144 := by omega
  have hfirst : (UInt8.ofNat (v / 262144 + 0xF0)).toNat = v / 262144 + 0xF0 := toNat_ofNat_of_lt (by omega)
  have hsecond : (UInt8.ofNat (v / 4096 % 0x40 + 0x80)).toNat = v / 4096 % 0x40 + 0x80 :=
    toNat_ofNat_of_lt (by omega)
  have hthird : (UInt8.ofNat (v / 64 % 0x40 + 0x80)).toNat = v / 64 % 0x40 + 0x80 := toNat_ofNat_of_lt (by omega)
  have hfourth : (UInt8.ofNat (v % 0x40 + 0x80)).toNat = v % 0x40 + 0x80 := toNat_ofNat_of_lt (by omega)
  have hlead := lead?_four (k := v / 262144) (by omega)
  have hvalue : ((v / 262144 * 64 + (v / 4096 % 0x40 + 0x80 - 0x80)) * 64 +
      (v / 64 % 0x40 + 0x80 - 0x80)) * 64 + (v % 0x40 + 0x80 - 0x80) = v := by omega
  rw [← hfirst] at hlead
  rw [hbits, firstLossy_lead _ (by omega) hlead]
  · dsimp only
    rw [continuation_succ _ _ _ (by omega), continuation_succ _ _ _ (by omega), hsecond, hthird, hfourth,
      continuation, hvalue]
  · dsimp only
    constructor
    · split <;> omega
    · split <;> omega

end Forms

/-- The first character of the bytes of a text is read, whatever follows it. -/
theorem charsLossy_encodeChar (c : Char) (rest : Bytes) :
    charsLossy (String.utf8EncodeChar c ++ rest) = c :: charsLossy rest := by
  obtain ⟨b, bs, hencode, hfirst⟩ :
      ∃ b bs, String.utf8EncodeChar c = b :: bs ∧ firstLossy b (bs ++ rest) = (c, rest) := by
    have hvalid : c.toNat < 0xD800 ∨ (0xDFFF < c.toNat ∧ c.toNat < 0x110000) := c.valid
    have hchar := Char.ofNat_toNat c
    have hv : c.val.toNat = c.toNat := rfl
    unfold String.utf8EncodeChar
    simp only [hv]
    generalize c.toNat = v at *
    rw [← hchar]
    split_ifs with hone htwo hthree
    · exact ⟨_, _, rfl, firstLossy_one rest (by omega)⟩
    · exact ⟨_, _, rfl, firstLossy_two rest (by omega) (by omega)⟩
    · exact ⟨_, _, rfl, firstLossy_three rest (by omega) (by omega) (by omega)⟩
    · exact ⟨_, _, rfl, firstLossy_four rest (by omega) (by omega)⟩
  rw [hencode, List.cons_append, charsLossy, hfirst]

/-- A text is read from its bytes also where undecodable parts would be replaced. -/
theorem toTextLossy_ofText (s : String) : toTextLossy (ofText s) = s := by
  have hchars : ∀ cs : List Char, charsLossy (cs.flatMap String.utf8EncodeChar) = cs := by
    intro cs
    induction cs with
    | nil => rw [List.flatMap_nil, charsLossy]
    | cons c cs ih => rw [List.flatMap_cons, charsLossy_encodeChar, ih]
  rw [toTextLossy, ofText_eq, hchars, String.ofList_toList]

theorem utf8EncodeChar_ascii {c : Char} (hc : c.toNat < 0x80) :
    String.utf8EncodeChar c = [UInt8.ofNat c.toNat] := by
  have hle : c.val.toNat ≤ 0x7F := Nat.le_of_lt_succ hc
  unfold String.utf8EncodeChar
  exact if_pos hle

theorem ofText_ascii {s : String} (hs : ∀ c ∈ s.toList, c.toNat < 0x80) :
    ofText s = s.toList.map fun c => UInt8.ofNat c.toNat := by
  rw [ofText_eq]
  generalize s.toList = cs at hs
  induction cs with
  | nil => rfl
  | cons c cs ih =>
    rw [List.flatMap_cons, utf8EncodeChar_ascii (hs c List.mem_cons_self),
      ih fun d hd => hs d (List.mem_cons_of_mem c hd)]
    rfl

/-- No byte of a text lies below all its characters, up to where bytes stop to stand for characters. -/
theorem le_toNat_of_mem_ofText {s : String} {low : Nat} (hlow : low ≤ 0x80) (hs : ∀ c ∈ s.toList, low ≤ c.toNat) :
    ∀ b ∈ ofText s, low ≤ b.toNat := by
  intro b hb
  rw [ofText_eq, List.mem_flatMap] at hb
  obtain ⟨c, hc, hb⟩ := hb
  have hle : low ≤ c.val.toNat := hs c hc
  unfold String.utf8EncodeChar at hb
  dsimp only at hb
  split_ifs at hb with hone htwo hthree
  · rw [List.mem_singleton.1 hb, toNat_ofNat_of_lt (by omega)]
    exact hle
  all_goals
    simp only [List.mem_cons, List.not_mem_nil, or_false] at hb
    rcases hb with rfl | rfl | rfl | rfl
  all_goals
    rw [toNat_ofNat_of_lt (by omega)]
    omega

/-! ## Texts in byte strings -/

theorem toText?_eq_some_iff {bytes : Bytes} {s : String} : toText? bytes = some s ↔ bytes = ofText s := by
  constructor
  · intro h
    rw [toText?, String.fromUTF8?] at h
    split at h
    · rw [← Option.some.inj h]
      rfl
    · cases h
  · rintro rfl
    exact toText?_ofText s

def IsText (bytes : Bytes) : Prop :=
  ∃ s, bytes = ofText s

theorem toText?_eq_none_iff {bytes : Bytes} : toText? bytes = none ↔ ¬IsText bytes := by
  simp only [Option.eq_none_iff_forall_ne_some, ne_eq, toText?_eq_some_iff, IsText, not_exists]

theorem isText_nil : IsText [] :=
  ⟨"", rfl⟩

theorem IsText.append {front back : Bytes} (hfront : IsText front) (hback : IsText back) : IsText (front ++ back) := by
  obtain ⟨s, rfl⟩ := hfront
  obtain ⟨t, rfl⟩ := hback
  exact ⟨s ++ t, (ofText_append s t).symm⟩

theorem ofText_singleton (c : Char) : ofText (String.ofList [c]) = String.utf8EncodeChar c := by
  rw [ofText_eq, String.toList_ofList, List.flatMap_singleton]

theorem ofText_ascii_singleton {b : UInt8} (hb : b.toNat < 0x80) : ofText (String.ofList [Char.ofNat b.toNat]) = [b] := by
  have hvalid : b.toNat.isValidChar := Or.inl (by omega)
  have hchar : (Char.ofNat b.toNat).toNat = b.toNat := by
    rw [Char.ofNat, dif_pos hvalid]
    rfl
  rw [ofText_singleton, utf8EncodeChar_ascii (by omega), hchar, UInt8.ofNat_toNat]

/-- An ASCII byte stands for its own character alone. -/
theorem eq_singleton_of_mem_utf8EncodeChar {c : Char} {b : UInt8} (hb : b.toNat < 0x80)
    (hmem : b ∈ String.utf8EncodeChar c) : String.utf8EncodeChar c = [b] := by
  by_cases hc : c.toNat < 0x80
  · rw [utf8EncodeChar_ascii hc, List.mem_singleton] at hmem
    rw [utf8EncodeChar_ascii hc, hmem]
  · rw [← ofText_singleton] at hmem
    have hhigh : ∀ d ∈ (String.ofList [c]).toList, 0x80 ≤ d.toNat := by
      simpa using hc
    exact absurd hb (Nat.not_lt.2 (le_toNat_of_mem_ofText le_rfl hhigh b hmem))

/-- A text can be cut at an ASCII character. -/
theorem isText_append_iff {front back : Bytes} {b : UInt8} (hb : b.toNat < 0x80) :
    IsText (front ++ b :: back) ↔ IsText front ∧ IsText back := by
  constructor
  · rintro ⟨s, hs⟩
    rw [ofText_eq] at hs
    generalize s.toList = cs at hs
    induction cs generalizing front with
    | nil => exact absurd hs (List.append_ne_nil_of_right_ne_nil _ (List.cons_ne_nil _ _))
    | cons c cs ih =>
      rw [List.flatMap_cons, List.append_eq_append_iff] at hs
      rcases hs with ⟨rest, hchar, hrest⟩ | ⟨rest, hfront, hrest⟩
      · cases rest with
        | nil =>
          -- The first character ends before the cut.
          rw [List.append_nil] at hchar
          exact ⟨⟨_, hchar ▸ (ofText_singleton c).symm⟩, (@ih [] hrest).2⟩
        | cons d rest =>
          -- The cut is in the first character, which is then no more than the byte.
          obtain ⟨rfl, hback⟩ := List.cons.inj hrest
          have hsingle := eq_singleton_of_mem_utf8EncodeChar hb (hchar ▸ List.mem_append_right front List.mem_cons_self)
          rw [hsingle] at hchar
          obtain ⟨rfl, rfl⟩ : front = [] ∧ rest = [] := by
            have hlength := congrArg List.length hchar
            simp only [List.length_append, List.length_cons, List.length_nil] at hlength
            exact ⟨List.eq_nil_of_length_eq_zero (by omega), List.eq_nil_of_length_eq_zero (by omega)⟩
          refine ⟨isText_nil, String.ofList cs, ?_⟩
          rw [hback, ofText_eq, String.toList_ofList]
          rfl
      · obtain ⟨hrest, hback⟩ := ih hrest.symm
        rw [hfront]
        exact ⟨IsText.append ⟨_, (ofText_singleton c).symm⟩ hrest, hback⟩
  · rintro ⟨hfront, hback⟩
    rw [List.append_cons]
    exact (hfront.append ⟨_, (ofText_ascii_singleton hb).symm⟩).append hback

theorem mem_of_mem_ofText {s : String} {b : UInt8} (hb : b.toNat < 0x80) (hmem : b ∈ ofText s) :
    Char.ofNat b.toNat ∈ s.toList := by
  rw [ofText_eq, List.mem_flatMap] at hmem
  obtain ⟨c, hc, hmem⟩ := hmem
  have hsame : ofText (String.ofList [c]) = ofText (String.ofList [Char.ofNat b.toNat]) := by
    rw [ofText_ascii_singleton hb, ofText_singleton, eq_singleton_of_mem_utf8EncodeChar hb hmem]
  have htext : some (String.ofList [c]) = some (String.ofList [Char.ofNat b.toNat]) := by
    rw [← toText?_ofText, ← toText?_ofText, hsame]
  obtain rfl := List.singleton_injective (String.ofList_injective (Option.some.inj htext))
  exact hc

/-! ## Header values -/

theorem ofText_visible {s : String} (hs : ∀ c ∈ s.toList, Text.IsVisible c) :
    ofText s = s.toList.map fun c => UInt8.ofNat c.toNat :=
  ofText_ascii fun c hc => Nat.lt_succ_of_le ((hs c hc).2.trans (by decide))

theorem mem_ofText_visible {s : String} (hs : ∀ c ∈ s.toList, Text.IsVisible c) :
    ∀ b ∈ ofText s, 0x21 ≤ b.toNat ∧ b.toNat ≤ 0x7E := by
  intro b hb
  rw [ofText_visible hs, List.mem_map] at hb
  obtain ⟨c, hc, rfl⟩ := hb
  rw [toNat_ofNat_of_lt (by have := (hs c hc).2; omega)]
  exact hs c hc

end Bytes

namespace Http

open Bytes

/-- A header of printable ASCII characters is read as it was written. -/
theorem headerText?_ofText {s : String} (hs : ∀ c ∈ s.toList, 0x20 ≤ c.toNat ∧ c.toNat ≤ 0x7E) :
    headerText? (Bytes.ofText s) = some s := by
  have hascii : Bytes.ofText s = s.toList.map fun c => UInt8.ofNat c.toNat :=
    ofText_ascii fun c hc => Nat.lt_succ_of_le ((hs c hc).2.trans (by decide))
  have hbyte : ∀ c ∈ s.toList, (UInt8.ofNat c.toNat).toNat = c.toNat := fun c hc =>
    toNat_ofNat_of_lt (by have := (hs c hc).2; omega)
  have hall : (s.toList.map fun c => UInt8.ofNat c.toNat).all isTextByte = true := by
    rw [List.all_map, List.all_eq_true]
    intro c hc
    have hrange := hs c hc
    simp only [Function.comp, isTextByte, hbyte c hc, Bool.or_eq_true, Bool.and_eq_true, decide_eq_true_eq]
    exact Or.inl hrange
  have hmap : (s.toList.map fun c => UInt8.ofNat c.toNat).map (fun b => Char.ofNat b.toNat) = s.toList := by
    rw [List.map_map]
    conv_rhs => rw [← List.map_id s.toList]
    apply List.map_congr_left
    intro c hc
    simp only [Function.comp, hbyte c hc, id, Char.ofNat_toNat]
  rw [headerText?, hascii, if_pos hall, hmap, String.ofList_toList]

theorem headerText?_visible {s : String} (hs : ∀ c ∈ s.toList, Text.IsVisible c) :
    headerText? (Bytes.ofText s) = some s :=
  headerText?_ofText fun c hc => ⟨Nat.le_trans (by decide) (hs c hc).1, (hs c hc).2⟩

/-- A value with visible bytes at its ends is received as it was sent. -/
theorem received_eq_self {header : Header} (hhead : ∀ b ∈ header.value.head?, 0x21 ≤ b.toNat)
    (hlast : ∀ b ∈ header.value.getLast?, 0x21 ≤ b.toNat) : header.received = header := by
  have hkeep : ∀ b : UInt8, 0x21 ≤ b.toNat → (b.toNat == 0x20 || b.toNat == 0x09) = false := by
    intro b hb
    simp only [Bool.or_eq_false_iff, beq_eq_false_iff_ne]
    omega
  rw [Header.received, Text.strip_eq_self]
  · exact fun b hb => hkeep b (hhead b hb)
  · exact fun b hb => hkeep b (hlast b hb)

/-- A header of visible characters is received as it was sent. -/
theorem received_ofText {name value : String} (hvalue : ∀ c ∈ value.toList, Text.IsVisible c) :
    (Header.ofText name value).received = Header.ofText name value := by
  apply received_eq_self
  · exact fun b hb => (mem_ofText_visible hvalue b (List.mem_of_mem_head? hb)).1
  · exact fun b hb => (mem_ofText_visible hvalue b (List.mem_of_getLast? hb)).1

end Http

end ModelContext
