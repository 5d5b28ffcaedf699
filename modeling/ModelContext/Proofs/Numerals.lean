import ModelContext.Json.Reader
import Mathlib.Tactic.IntervalCases

/-!
# Numerals

A numeral is digits with an optional sign, fraction and exponent. The reader takes a numeral off the front
of a text wherever it ends, and an integer is read back from its decimal form.
-/

namespace ModelContext.Json

structure Numeral where
  negative : Bool
  whole : List Char
  fraction : Option (List Char)
  exponent : Option Int

namespace Numeral

def fractionChars : Option (List Char) → List Char
  | none => []
  | some ds => '.' :: ds

def exponentChars : Option Int → List Char
  | none => []
  | some e => 'e' :: (if e < 0 then '-' else '+') :: Nat.toDigits 10 e.natAbs

def signChars (negative : Bool) : List Char :=
  if negative then ['-'] else []

def chars (n : Numeral) : List Char :=
  signChars n.negative ++ (n.whole ++ (fractionChars n.fraction ++ exponentChars n.exponent))

def value? (n : Numeral) : Option Json :=
  numeral? n.negative n.whole n.fraction n.exponent

/-- Digits before the point, with no zero in front of others, and digits after a point. -/
structure WellFormed (n : Numeral) : Prop where
  whole_digits : ∀ c ∈ n.whole, c.isDigit = true
  whole_ne_nil : n.whole ≠ []
  no_leading_zero : ¬(1 < n.whole.length ∧ n.whole.head? = some '0')
  fraction_digits : ∀ ds, n.fraction = some ds → ds ≠ [] ∧ ∀ c ∈ ds, c.isDigit = true

end Numeral

/-- Nothing at the front of a text can belong to a numeral before it. -/
def EndsNumeral (rest : List Char) : Prop :=
  ∀ c ∈ rest.head?, c.isDigit = false ∧ c ≠ '.' ∧ c ≠ 'e' ∧ c ≠ 'E'

def EndsDigits (rest : List Char) : Prop :=
  ∀ c ∈ rest.head?, c.isDigit = false

theorem EndsNumeral.endsDigits {rest : List Char} (h : EndsNumeral rest) : EndsDigits rest :=
  fun c hc => (h c hc).1

theorem endsNumeral_nil : EndsNumeral [] := by
  intro c hc
  simp at hc

theorem endsNumeral_cons {c : Char} (h : c.isDigit = false ∧ c ≠ '.' ∧ c ≠ 'e' ∧ c ≠ 'E') (rest : List Char) :
    EndsNumeral (c :: rest) := by
  intro d hd
  rw [List.head?_cons, Option.mem_some_iff] at hd
  rwa [← hd]

theorem digits_append {ds rest : List Char} (hd : ∀ c ∈ ds, c.isDigit = true) (hr : EndsDigits rest) :
    digits (ds ++ rest) = (ds, rest) := by
  have htake : rest.takeWhile Char.isDigit = [] := by
    cases rest with
    | nil => rfl
    | cons c rest => simp [hr c rfl]
  have hdrop : rest.dropWhile Char.isDigit = rest := by
    cases rest with
    | nil => rfl
    | cons c rest => simp [hr c rfl]
  rw [digits, List.takeWhile_append_of_pos hd, List.dropWhile_append_of_pos hd, htake, hdrop, List.append_nil]

namespace Numeral

theorem endsDigits_exponentChars (e : Option Int) {rest : List Char} (hr : EndsNumeral rest) :
    EndsDigits (exponentChars e ++ rest) := by
  cases e with
  | none => exact hr.endsDigits
  | some e =>
    intro c hc
    cases hc
    rfl

theorem endsDigits_fractionChars (f : Option (List Char)) {rest : List Char} (hr : EndsDigits rest) :
    EndsDigits (fractionChars f ++ rest) := by
  cases f with
  | none => exact hr
  | some ds =>
    intro c hc
    cases hc
    rfl

theorem fraction?_chars {f : Option (List Char)} {rest : List Char}
    (hf : ∀ ds, f = some ds → ds ≠ [] ∧ ∀ c ∈ ds, c.isDigit = true) (hr : EndsDigits rest)
    (hpoint : ∀ c ∈ rest.head?, c ≠ '.') : fraction? (fractionChars f ++ rest) = some (f, rest) := by
  cases f with
  | none =>
    cases rest with
    | nil => rfl
    | cons c rest =>
      have hc := hpoint c rfl
      simp only [fractionChars, List.nil_append, fraction?]
      split
      · rename_i heq
        exact absurd (List.cons.inj heq).1 hc
      · rfl
  | some ds =>
    obtain ⟨hne, hd⟩ := hf ds rfl
    have hempty : ds.isEmpty = false := by simpa using hne
    simp only [fractionChars, List.cons_append, fraction?, digits_append hd hr, hempty]
    rfl

theorem decimalValue_toDigits (n : Nat) : decimalValue (Nat.toDigits 10 n) = n := by
  have hd := fun c => Nat.isDigit_of_mem_toDigits (b := 10) (n := n) (c := c) (by decide) (by decide)
  unfold decimalValue
  split
  · rename_i ds heq
    have := hd '-' (by rw [heq]; exact List.mem_cons_self)
    cases this
  · rw [Nat.ofDigitChars_ten_toDigits]

theorem exponent?_chars (e : Option Int) {rest : List Char} (hr : EndsNumeral rest) :
    exponent? (exponentChars e ++ rest) = some (e, rest) := by
  cases e with
  | none =>
    cases rest with
    | nil => rfl
    | cons c rest =>
      obtain ⟨-, -, he, hE⟩ := hr c rfl
      simp [exponentChars, exponent?, he, hE]
  | some e =>
    have hd := fun c => Nat.isDigit_of_mem_toDigits (b := 10) (n := e.natAbs) (c := c) (by decide) (by decide)
    have hempty : (Nat.toDigits 10 e.natAbs).isEmpty = false := by simp [Nat.toDigits_ne_nil]
    by_cases hneg : e < 0
    · have hvalue : decimalValue ('-' :: Nat.toDigits 10 e.natAbs) = e := by
        simp only [decimalValue, Nat.ofDigitChars_ten_toDigits]
        omega
      simp [exponentChars, exponent?, hneg, digits_append hd hr.endsDigits, hempty, hvalue]
    · have hvalue : decimalValue (Nat.toDigits 10 e.natAbs) = e := by
        rw [decimalValue_toDigits]
        omega
      simp [exponentChars, exponent?, hneg, digits_append hd hr.endsDigits, hempty, hvalue]

end Numeral

/-- What the reader does after the sign. -/
theorem unsigned_chars {n : Numeral} (hn : n.WellFormed) {rest : List Char} (hr : EndsNumeral rest) :
    digits (n.whole ++ (Numeral.fractionChars n.fraction ++ Numeral.exponentChars n.exponent) ++ rest) =
        (n.whole, Numeral.fractionChars n.fraction ++ (Numeral.exponentChars n.exponent ++ rest)) ∧
      fraction? (Numeral.fractionChars n.fraction ++ (Numeral.exponentChars n.exponent ++ rest)) =
        some (n.fraction, Numeral.exponentChars n.exponent ++ rest) ∧
      exponent? (Numeral.exponentChars n.exponent ++ rest) = some (n.exponent, rest) := by
  have hexp := Numeral.endsDigits_exponentChars n.exponent hr
  refine ⟨?_, ?_, Numeral.exponent?_chars n.exponent hr⟩
  · rw [List.append_assoc, List.append_assoc]
    exact digits_append hn.whole_digits (Numeral.endsDigits_fractionChars n.fraction hexp)
  · apply Numeral.fraction?_chars hn.fraction_digits hexp
    intro c hc
    cases he : n.exponent with
    | none =>
      rw [he] at hc
      exact (hr c hc).2.1
    | some e =>
      rw [he] at hc
      cases hc
      decide

/-- A numeral is read off the front of a text, wherever it ends. -/
theorem number?_chars {n : Numeral} (hn : n.WellFormed) {rest : List Char} (hr : EndsNumeral rest) :
    number? (n.chars ++ rest) = n.value?.map (·, rest) := by
  obtain ⟨hdigits, hfraction, hexponent⟩ := unsigned_chars hn hr
  have hempty : ¬(n.whole.isEmpty = true ∨ (1 < n.whole.length ∧ n.whole.head? = some '0')) := by
    intro h
    rcases h with h | h
    · exact hn.whole_ne_nil (by simpa using h)
    · exact hn.no_leading_zero h
  cases hneg : n.negative with
  | true =>
    simp only [Numeral.chars, hneg, Numeral.signChars, if_true, List.cons_append, List.nil_append, number?,
      hdigits, if_neg hempty, hfraction, hexponent, Option.bind_eq_bind, Option.bind_some]
    rw [Numeral.value?, hneg, Option.map_eq_bind]
    rfl
  | false =>
    obtain ⟨d, ds, hwhole⟩ := List.exists_cons_of_ne_nil hn.whole_ne_nil
    have hd : d ≠ '-' := by
      have := hn.whole_digits d (by rw [hwhole]; exact List.mem_cons_self)
      rintro rfl
      cases this
    simp only [Numeral.chars, hneg, Numeral.signChars, Bool.false_eq_true, if_false, List.nil_append, number?]
    split
    · rename_i cs heq
      rw [hwhole] at heq
      exact absurd (List.cons.inj heq).1 hd
    · simp only [hdigits, if_neg hempty, hfraction, hexponent, Option.bind_eq_bind, Option.bind_some]
      rw [Numeral.value?, hneg, Option.map_eq_bind]
      rfl

theorem toDigits_head {n : Nat} (hn : 0 < n) : ∃ d ds, Nat.toDigits 10 n = d :: ds ∧ d ≠ '0' := by
  induction n using Nat.strong_induction_on with
  | _ n ih =>
    rw [Nat.toDigits_eq_if (by decide)]
    split
    · rename_i hlt
      refine ⟨n.digitChar, [], rfl, ?_⟩
      interval_cases n <;> decide
    · rename_i hge
      obtain ⟨d, ds, hds, hd⟩ := ih (n / 10) (by omega) (by omega)
      exact ⟨d, ds ++ [(n % 10).digitChar], by rw [hds]; rfl, hd⟩

/-- The digits of a number have no zero in front of others. -/
theorem toDigits_no_leading_zero (n : Nat) :
    ¬(1 < (Nat.toDigits 10 n).length ∧ (Nat.toDigits 10 n).head? = some '0') := by
  rintro ⟨hlen, hhead⟩
  rcases Nat.eq_zero_or_pos n with rfl | hn
  · simp [Nat.toDigits_zero] at hlen
  · obtain ⟨d, ds, hds, hd⟩ := toDigits_head hn
    rw [hds] at hhead
    exact hd (Option.some.inj hhead)

theorem isDigit_zero : ∀ c ∈ ['0'], c.isDigit = true :=
  List.forall_mem_singleton.2 rfl

theorem isDigit_toDigits (n : Nat) : ∀ c ∈ Nat.toDigits 10 n, c.isDigit = true :=
  fun _ hc => Nat.isDigit_of_mem_toDigits (by decide) (by decide) hc

def Numeral.ofInt (n : Int) : Numeral :=
  { negative := decide (n < 0), whole := Nat.toDigits 10 n.natAbs, fraction := none, exponent := none }

theorem Numeral.wellFormed_ofInt (n : Int) : (Numeral.ofInt n).WellFormed where
  whole_digits := isDigit_toDigits n.natAbs
  whole_ne_nil := Nat.toDigits_ne_nil
  no_leading_zero := toDigits_no_leading_zero n.natAbs
  fraction_digits := by
    intro ds h
    cases h

theorem Numeral.chars_ofInt (n : Int) : (Numeral.ofInt n).chars = decimalChars n := by
  by_cases h : n < 0 <;> simp [Numeral.chars, Numeral.ofInt, decimalChars, signChars, fractionChars, exponentChars, h]

/-- The integers that a 64-bit word holds, with or without a sign. -/
def FitsWord (n : Int) : Prop :=
  -9223372036854775808 ≤ n ∧ n < 18446744073709551616

instance : DecidablePred FitsWord :=
  fun n => inferInstanceAs (Decidable (-9223372036854775808 ≤ n ∧ n < 18446744073709551616))

theorem Numeral.value?_ofInt {n : Int} (hn : FitsWord n) : (Numeral.ofInt n).value? = some (.int n) := by
  obtain ⟨hlow, hhigh⟩ := hn
  by_cases h : n < 0
  · have hfits : fitsWord true n.natAbs = true := by
      simp only [fitsWord, if_true, Bool.and_eq_true, decide_eq_true_eq]
      omega
    have hvalue : -(n.natAbs : Int) = n := by omega
    simp only [Numeral.value?, Numeral.ofInt, numeral?, h, decide_true, Nat.ofDigitChars_ten_toDigits, hfits,
      Option.isNone_none, and_self, if_true, hvalue]
  · have hfits : fitsWord false n.natAbs = true := by
      simp only [fitsWord, Bool.false_eq_true, if_false, decide_eq_true_eq]
      omega
    have hvalue : (n.natAbs : Int) = n := by omega
    simp only [Numeral.value?, Numeral.ofInt, numeral?, h, decide_false, Nat.ofDigitChars_ten_toDigits, hfits,
      Option.isNone_none, and_self, if_true, Bool.false_eq_true, if_false, hvalue]

/-- An integer is read back from its decimal form. -/
theorem number?_decimalChars {n : Int} (hn : FitsWord n) {rest : List Char} (hr : EndsNumeral rest) :
    number? (decimalChars n ++ rest) = some (.int n, rest) := by
  rw [← Numeral.chars_ofInt, number?_chars (Numeral.wellFormed_ofInt n) hr, Numeral.value?_ofInt hn]
  rfl

end ModelContext.Json
