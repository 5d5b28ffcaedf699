import ModelContext.Number.Shortest
import ModelContext.Proofs.Numerals
import ModelContext.Proofs.Rounding
import Mathlib.Algebra.Order.Field.Rat
import Mathlib.Algebra.Order.Field.Power
import Mathlib.Tactic.NormNum
import Mathlib.Tactic.Positivity

/-!
# Written floating-point numbers are read again

The text of a floating-point number is a numeral, and the reader takes it for some number. It need not be
the number that was written, since long numerals may be read one step off. For all but the largest four
magnitudes the decimal that is written lies so far below the overflow threshold that no rounding on the
way reaches it; those four are computed.
-/

namespace ModelContext

open Json

/-! ## Digits as numbers -/

def appendDigits (n : Nat) (ds : List Nat) : Nat :=
  ds.foldl (fun n d => n * 10 + d) n

theorem appendDigits_append (n : Nat) (ds es : List Nat) :
    appendDigits n (ds ++ es) = appendDigits (appendDigits n ds) es :=
  List.foldl_append

theorem le_appendDigits (n : Nat) (ds : List Nat) : n * 10 ^ ds.length ≤ appendDigits n ds := by
  induction ds generalizing n with
  | nil => simp [appendDigits]
  | cons d ds ih =>
    have h := ih (n * 10 + d)
    calc n * 10 ^ (ds.length + 1) = n * 10 * 10 ^ ds.length := by ring
      _ ≤ (n * 10 + d) * 10 ^ ds.length := Nat.mul_le_mul_right _ (Nat.le_add_right _ _)
      _ ≤ appendDigits n (d :: ds) := h

theorem appendDigits_lt {n : Nat} {ds : List Nat} (hd : ∀ d ∈ ds, d < 10) :
    appendDigits n ds < (n + 1) * 10 ^ ds.length := by
  induction ds generalizing n with
  | nil => simp [appendDigits]
  | cons d ds ih =>
    have h := ih (n := n * 10 + d) fun e he => hd e (List.mem_cons_of_mem d he)
    have hlt := hd d List.mem_cons_self
    calc appendDigits n (d :: ds) < (n * 10 + d + 1) * 10 ^ ds.length := h
      _ ≤ ((n + 1) * 10) * 10 ^ ds.length := Nat.mul_le_mul_right _ (by omega)
      _ = (n + 1) * 10 ^ (ds.length + 1) := by ring

theorem appendDigits_replicate_zero (n k : Nat) : appendDigits n (List.replicate k 0) = n * 10 ^ k := by
  induction k generalizing n with
  | zero => simp [appendDigits]
  | succ k ih =>
    rw [List.replicate_succ]
    have h := ih (n * 10 + 0)
    calc appendDigits n (0 :: List.replicate k 0) = (n * 10 + 0) * 10 ^ k := h
      _ = n * 10 ^ (k + 1) := by ring

theorem appendDigits_digitValue (n : Nat) (cs : List Char) :
    appendDigits n (cs.map digitValue) = Nat.ofDigitChars 10 cs n := by
  rw [Nat.ofDigitChars_eq_foldl, appendDigits, List.foldl_map]
  congr 1
  funext m c
  rw [Nat.mul_comm]
  rfl

theorem digitValue_lt {c : Char} (h : c.isDigit = true) : digitValue c < 10 := by
  simp only [Char.isDigit, Bool.and_eq_true, decide_eq_true_eq] at h
  have hle : c.toNat ≤ '9'.toNat := h.2
  unfold digitValue
  have h9 : '9'.toNat = 57 := rfl
  have h0 : '0'.toNat = 48 := rfl
  omega

namespace Double

/-- The word that is read never exceeds the digits. -/
theorem takeWord_le (n : Nat) (ds : List Nat) :
    (takeWord n ds).1 * 10 ^ (takeWord n ds).2 ≤ appendDigits n ds := by
  induction ds generalizing n with
  | nil => simp [takeWord, appendDigits]
  | cons d ds ih =>
    simp only [takeWord]
    split
    · exact ih (n * 10 + d)
    · exact le_appendDigits n (d :: ds)

theorem takeWord_of_lt {n : Nat} {ds : List Nat} (h : appendDigits n ds < 18446744073709551616) :
    takeWord n ds = (appendDigits n ds, 0) := by
  induction ds generalizing n with
  | nil => rfl
  | cons d ds ih =>
    have hle : n * 10 + d ≤ appendDigits (n * 10 + d) ds :=
      (Nat.le_mul_of_pos_right _ (Nat.pow_pos (by decide))).trans (le_appendDigits _ ds)
    have htail : appendDigits (n * 10 + d) ds < 18446744073709551616 := h
    simp only [takeWord, if_pos (hle.trans_lt htail)]
    exact ih htail

end Double

/-! ## The numeral of a laid out decimal -/

/-- The digits of a numeral before and after its point, as one number. -/
def Json.Numeral.digitsValue (n : Numeral) : Nat :=
  appendDigits (appendDigits 0 (n.whole.map digitValue)) ((n.fraction.getD []).map digitValue)

def Json.Numeral.scale (n : Numeral) : Int :=
  n.exponent.getD 0 - (n.fraction.getD []).length

def layoutNumeral (negative : Bool) (digits : List Char) (point : Int) : Numeral :=
  if 0 < point ∧ point ≤ 16 then
    if digits.length ≤ point then
      { negative, whole := digits ++ List.replicate (point - digits.length).toNat '0', fraction := some ['0'],
        exponent := none }
    else
      { negative, whole := digits.take point.toNat, fraction := some (digits.drop point.toNat), exponent := none }
  else if -5 < point ∧ point ≤ 0 then
    { negative, whole := ['0'], fraction := some (List.replicate point.natAbs '0' ++ digits), exponent := none }
  else
    { negative, whole := digits.take 1, exponent := some (point - 1),
      fraction := if digits.length ≤ 1 then none else some (digits.drop 1) }

theorem chars_layoutNumeral (negative : Bool) {digits : List Char} (hne : digits ≠ []) (point : Int) :
    (layoutNumeral negative digits point).chars =
      Numeral.signChars negative ++ Double.layout digits point := by
  obtain ⟨d, ds, rfl⟩ := List.exists_cons_of_ne_nil hne
  simp only [layoutNumeral, Double.layout]
  split
  · split
    · simp [Numeral.chars, Numeral.fractionChars, Numeral.exponentChars]
    · simp [Numeral.chars, Numeral.fractionChars, Numeral.exponentChars]
  · split
    · simp [Numeral.chars, Numeral.fractionChars, Numeral.exponentChars]
    · cases ds with
      | nil => simp [Numeral.chars, Numeral.fractionChars, Numeral.exponentChars]
      | cons e more => simp [Numeral.chars, Numeral.fractionChars, Numeral.exponentChars]

section Layout

variable (negative : Bool) {digits : List Char} (point : Int)

theorem isDigit_replicate_zero (k : Nat) : ∀ c ∈ List.replicate k '0', c.isDigit = true := by
  intro c hc
  rw [List.eq_of_mem_replicate hc]
  rfl

theorem isDigit_whole_layoutNumeral (hd : ∀ c ∈ digits, c.isDigit = true) :
    ∀ c ∈ (layoutNumeral negative digits point).whole, c.isDigit = true := by
  unfold layoutNumeral
  split
  · split
    · exact List.forall_mem_append.2 ⟨hd, isDigit_replicate_zero _⟩
    · exact fun c hc => hd c (List.mem_of_mem_take hc)
  · split
    · exact isDigit_zero
    · exact fun c hc => hd c (List.mem_of_mem_take hc)

theorem length_whole_layoutNumeral_le : (layoutNumeral negative digits point).whole.length ≤ 16 := by
  unfold layoutNumeral
  split
  · split
    · rw [List.length_append, List.length_replicate]
      omega
    · rw [List.length_take]
      omega
  · split
    · exact (by decide : ['0'].length ≤ 16)
    · rw [List.length_take]
      omega

/-- The digits before the point begin like all digits, if these are not all behind the point. -/
theorem whole_layoutNumeral_start (hne : digits ≠ []) :
    (layoutNumeral negative digits point).whole = ['0'] ∨
      ∃ ds, (layoutNumeral negative digits point).whole = digits.head hne :: ds := by
  obtain ⟨d, ds, rfl⟩ := List.exists_cons_of_ne_nil hne
  unfold layoutNumeral
  split
  · split
    · exact Or.inr ⟨_, List.cons_append⟩
    · obtain ⟨k, hk⟩ : ∃ k, point.toNat = k + 1 := ⟨point.toNat - 1, by omega⟩
      refine Or.inr ⟨ds.take k, ?_⟩
      dsimp only
      rw [hk, List.take_succ_cons, List.head_cons]
  · split
    · exact Or.inl rfl
    · exact Or.inr ⟨[], rfl⟩

theorem fraction_layoutNumeral (hd : ∀ c ∈ digits, c.isDigit = true) (hne : digits ≠ []) {ds : List Char}
    (h : (layoutNumeral negative digits point).fraction = some ds) :
    ds ≠ [] ∧ ∀ c ∈ ds, c.isDigit = true := by
  have hdrop : ∀ k < digits.length, digits.drop k ≠ [] ∧ ∀ c ∈ digits.drop k, c.isDigit = true := by
    intro k hk
    refine ⟨?_, fun c hc => hd c (List.mem_of_mem_drop hc)⟩
    rw [Ne, List.drop_eq_nil_iff]
    omega
  unfold layoutNumeral at h
  split at h
  · split at h
    · cases h
      exact ⟨List.cons_ne_nil _ _, isDigit_zero⟩
    · cases h
      exact hdrop point.toNat (by omega)
  · split at h
    · cases h
      refine ⟨List.append_ne_nil_of_right_ne_nil _ hne, ?_⟩
      exact List.forall_mem_append.2 ⟨isDigit_replicate_zero _, hd⟩
    · dsimp only at h
      split at h
      · cases h
      · cases h
        exact hdrop 1 (by omega)

theorem wellFormed_layoutNumeral (hd : ∀ c ∈ digits, c.isDigit = true) (hne : digits ≠ [])
    (hhead : digits.head? ≠ some '0') : (layoutNumeral negative digits point).WellFormed where
  whole_digits := isDigit_whole_layoutNumeral negative point hd
  whole_ne_nil := by
    rcases whole_layoutNumeral_start negative point hne with h | ⟨ds, h⟩
    · rw [h]
      exact List.cons_ne_nil _ _
    · rw [h]
      exact List.cons_ne_nil _ _
  no_leading_zero := by
    rintro ⟨hlen, hzero⟩
    rcases whole_layoutNumeral_start negative point hne with h | ⟨ds, h⟩
    · rw [h] at hlen
      exact absurd hlen (by decide)
    · rw [h, List.head?_cons, ← List.head?_eq_some_head hne] at hzero
      exact hhead hzero
  fraction_digits ds h := fraction_layoutNumeral negative point hd hne h

end Layout

theorem value?_layoutNumeral (negative : Bool) (digits : List Char) (point : Int) :
    (layoutNumeral negative digits point).value? =
      (Double.ofDecimal? negative ((layoutNumeral negative digits point).whole.map digitValue)
        (((layoutNumeral negative digits point).fraction.getD []).map digitValue)
        ((layoutNumeral negative digits point).exponent.getD 0)).map .float := by
  have hfloat : ¬((layoutNumeral negative digits point).fraction.isNone = true ∧
      (layoutNumeral negative digits point).exponent.isNone = true) := by
    unfold layoutNumeral
    split
    · split <;> simp
    · split <;> simp
  have hsign : (layoutNumeral negative digits point).negative = negative := by
    unfold layoutNumeral
    split
    · split <;> rfl
    · split <;> rfl
  rw [Numeral.value?, numeral?, if_neg (fun h => hfloat ⟨h.1, h.2.1⟩), hsign]

theorem appendDigits_toNumber (whole more : List Char) :
    appendDigits (appendDigits 0 (whole.map digitValue)) (more.map digitValue) =
      appendDigits 0 ((whole ++ more).map digitValue) := by
  rw [← appendDigits_append, ← List.map_append]

/-- The digits before the point fit into a word. -/
theorem whole_layoutNumeral_lt (negative : Bool) {digits : List Char} (hd : ∀ c ∈ digits, c.isDigit = true)
    (point : Int) :
    appendDigits 0 ((layoutNumeral negative digits point).whole.map digitValue) < 18446744073709551616 := by
  have hdigits := isDigit_whole_layoutNumeral negative point hd
  have hlen := @length_whole_layoutNumeral_le negative digits point
  generalize (layoutNumeral negative digits point).whole = whole at *
  have hlt : appendDigits 0 (whole.map digitValue) < (0 + 1) * 10 ^ (whole.map digitValue).length := by
    apply appendDigits_lt
    intro e he
    obtain ⟨c, hc, rfl⟩ := List.mem_map.1 he
    exact digitValue_lt (hdigits c hc)
  have hpow : 10 ^ (whole.map digitValue).length ≤ 10 ^ 16 := by
    rw [List.length_map]
    exact Nat.pow_le_pow_right (by decide) hlen
  omega

theorem appendDigits_zeros (n k : Nat) :
    appendDigits n ((List.replicate k '0').map digitValue) = n * 10 ^ k := by
  rw [List.map_replicate]
  exact appendDigits_replicate_zero n k

/-- Laying out digits does not change their value. -/
theorem value_layoutNumeral (negative : Bool) {digits : List Char} (hne : digits ≠ []) (point : Int) :
    ((layoutNumeral negative digits point).digitsValue : ℚ) * 10 ^ (layoutNumeral negative digits point).scale =
      (appendDigits 0 (digits.map digitValue) : ℚ) * 10 ^ (point - digits.length) := by
  have hpos := List.length_pos_of_ne_nil hne
  unfold layoutNumeral Numeral.digitsValue Numeral.scale
  split
  · split
    · rename_i hshort
      obtain ⟨k, hk⟩ := Int.eq_ofNat_of_zero_le (Int.sub_nonneg_of_le hshort)
      have hvalue : appendDigits (appendDigits 0 ((digits ++ List.replicate k '0').map digitValue))
          (['0'].map digitValue) = appendDigits 0 (digits.map digitValue) * 10 ^ (k + 1) := by
        rw [List.map_append, appendDigits_append, appendDigits_zeros, Nat.pow_succ, ← Nat.mul_assoc]
        rfl
      simp only [hk, Int.toNat_natCast, Option.getD_some, Option.getD_none, hvalue, List.length_singleton]
      push_cast
      rw [mul_assoc, ← zpow_natCast, ← zpow_add₀ (by norm_num)]
      congr 2
      push_cast
      ring
    · rename_i hlong
      have hvalue : appendDigits (appendDigits 0 ((digits.take point.toNat).map digitValue))
          ((digits.drop point.toNat).map digitValue) = appendDigits 0 (digits.map digitValue) := by
        rw [appendDigits_toNumber, List.take_append_drop]
      have hscale : (0 : Int) - (digits.drop point.toNat).length = point - digits.length := by
        rw [List.length_drop]
        omega
      simp only [Option.getD_some, Option.getD_none, hvalue, hscale]
  · split
    · rename_i hpoint
      have hvalue : appendDigits (appendDigits 0 (['0'].map digitValue))
          ((List.replicate point.natAbs '0' ++ digits).map digitValue) =
            appendDigits 0 (digits.map digitValue) := by
        have hzero : appendDigits 0 (['0'].map digitValue) = 0 := rfl
        rw [hzero, List.map_append, appendDigits_append, appendDigits_zeros, Nat.zero_mul]
      have hscale : (0 : Int) - (List.replicate point.natAbs '0' ++ digits).length = point - digits.length := by
        rw [List.length_append, List.length_replicate]
        omega
      simp only [Option.getD_some, Option.getD_none, hvalue, hscale]
    · by_cases hone : digits.length ≤ 1
      · have hvalue : digits.take 1 = digits := List.take_of_length_le hone
        have hscale : point - 1 - (0 : Nat) = point - digits.length := by omega
        simp only [if_pos hone, Option.getD_some, Option.getD_none, hvalue, List.length_nil, hscale]
        rfl
      · have hvalue : appendDigits (appendDigits 0 ((digits.take 1).map digitValue))
            ((digits.drop 1).map digitValue) = appendDigits 0 (digits.map digitValue) := by
          rw [appendDigits_toNumber, List.take_append_drop]
        have hscale : point - 1 - (digits.drop 1).length = point - digits.length := by
          rw [List.length_drop]
          omega
        simp only [if_neg hone, Option.getD_some, hvalue, hscale]

/-- Numerals of decimals far enough below the threshold are read. -/
theorem layoutNumeral_isSome (negative : Bool) {digits : List Char} (hd : ∀ c ∈ digits, c.isDigit = true)
    (hne : digits ≠ []) (point : Int)
    (h : 2 * ((appendDigits 0 (digits.map digitValue) : ℚ) * 10 ^ (point - digits.length)) * 2 ^ unitPlace ≤
      (4 * binadeSize - 9 : Nat) * 2 ^ Double.topScale) :
    ∃ y, (layoutNumeral negative digits point).value? = some (.float y) := by
  have hvalue := value_layoutNumeral negative hne point
  have hwhole := whole_layoutNumeral_lt negative hd point
  rw [value?_layoutNumeral]
  rw [← hvalue] at h
  generalize layoutNumeral negative digits point = n at *
  have hword := Double.takeWord_of_lt hwhole
  have hle := Double.takeWord_le (appendDigits 0 (n.whole.map digitValue)) ((n.fraction.getD []).map digitValue)
  have hsome : (Double.ofDecimal? negative (n.whole.map digitValue) ((n.fraction.getD []).map digitValue)
      (n.exponent.getD 0)).isSome := by
    simp only [Double.ofDecimal?, hword]
    generalize Double.takeWord (appendDigits 0 (n.whole.map digitValue)) ((n.fraction.getD []).map digitValue) =
      read at *
    apply Double.scaleBy?_isSome
    intro k hk
    have hexp : (read.2 : Int) + n.scale = k := by
      rw [← hk, Numeral.scale, List.length_map]
      push_cast
      ring
    have hread : (read.1 : ℚ) * 10 ^ k ≤ n.digitsValue * 10 ^ n.scale := by
      calc (read.1 : ℚ) * 10 ^ k = (read.1 * 10 ^ read.2 : Nat) * 10 ^ n.scale := by
            push_cast
            rw [mul_assoc, ← zpow_natCast, ← zpow_natCast, ← zpow_add₀ (by norm_num), hexp]
        _ ≤ n.digitsValue * 10 ^ n.scale :=
            mul_le_mul_of_nonneg_right (by exact_mod_cast hle) (by positivity)
    have hbound : (2 : ℚ) * (read.1 * 10 ^ k * 2 ^ unitPlace) ≤ (4 * binadeSize - 9 : Nat) * 2 ^ Double.topScale := by
      calc (2 : ℚ) * (read.1 * 10 ^ k * 2 ^ unitPlace) = 2 * (read.1 * 10 ^ k) * 2 ^ unitPlace := by ring
        _ ≤ 2 * (n.digitsValue * 10 ^ n.scale) * 2 ^ unitPlace :=
            mul_le_mul_of_nonneg_right (mul_le_mul_of_nonneg_left hread (by norm_num)) (by positivity)
        _ ≤ (4 * binadeSize - 9 : Nat) * 2 ^ Double.topScale := h
    exact_mod_cast hbound
  obtain ⟨y, hy⟩ := Option.isSome_iff_exists.1 hsome
  exact ⟨y, by rw [hy]; rfl⟩

/-! ## The decimal that is written -/

namespace Double

namespace Decimal

def value (d : Decimal) : ℚ :=
  d.digits * 10 ^ d.exponent

theorem ratio_snd_pos (d : Decimal) : 0 < d.ratio.2 := by
  unfold ratio
  split
  · exact Nat.pow_pos (by decide)
  · exact Nat.one_pos

theorem ratio_fst (d : Decimal) : (d.ratio.1 : ℚ) = d.value * d.ratio.2 := by
  unfold ratio value
  split
  · rename_i hneg
    have hexp : d.exponent + (d.exponent.natAbs : Int) = 0 := by omega
    simp only [Nat.pow_eq]
    push_cast
    rw [mul_assoc, ← zpow_natCast, ← zpow_add₀ (by norm_num), hexp, zpow_zero, mul_one]
  · rename_i hpos
    have hexp : d.exponent = (d.exponent.natAbs : Int) := by omega
    simp only [Nat.pow_eq]
    push_cast
    rw [mul_one, ← zpow_natCast, ← hexp]

theorem ratio_fst_of_digits {d : Decimal} (h : d.digits = 0) : d.ratio.1 = 0 := by
  unfold ratio
  split
  · exact h
  · exact Nat.mul_eq_zero.2 (Or.inl h)

theorem value_normalize (limit : Nat) (d : Decimal) : (d.normalize limit).value = d.value := by
  induction limit generalizing d with
  | zero => rfl
  | succ limit ih =>
    rw [normalize]
    split
    · rename_i h
      obtain ⟨k, hk⟩ := Nat.dvd_of_mod_eq_zero h.1
      rw [ih, value, value, hk, Nat.mul_div_cancel_left _ (by decide)]
      push_cast
      rw [zpow_add₀ (by norm_num)]
      ring
    · rfl

theorem digits_normalize_ne_zero (limit : Nat) {d : Decimal} (h : d.digits ≠ 0) :
    (d.normalize limit).digits ≠ 0 := by
  induction limit generalizing d with
  | zero => exact h
  | succ limit ih =>
    rw [normalize]
    split
    · rename_i hmod
      apply ih
      dsimp only
      omega
    · exact h

/-- A decimal four and a half steps below the threshold of overflow. -/
def IsSafe (d : Decimal) : Prop :=
  2 * d.value * 2 ^ unitPlace ≤ (4 * binadeSize - 9 : Nat) * 2 ^ topScale

theorem isSafe_of_ratio {d : Decimal}
    (h : 2 * (d.ratio.1 * 2 ^ unitPlace) ≤ (4 * binadeSize - 9) * (d.ratio.2 * 2 ^ topScale)) : d.IsSafe := by
  have hpos : (0 : ℚ) < d.ratio.2 := by exact_mod_cast d.ratio_snd_pos
  have hq : (2 : ℚ) * (d.ratio.1 * 2 ^ unitPlace) ≤ (4 * binadeSize - 9 : Nat) * (d.ratio.2 * 2 ^ topScale) := by
    exact_mod_cast h
  rw [ratio_fst] at hq
  unfold IsSafe
  apply le_of_mul_le_mul_right _ hpos
  linarith

end Decimal

variable {x : Double}

theorem nearestPlace_of_readsAs {d : Decimal} (h : x.readsAs d = true) :
    nearestPlace d.ratio.1 d.ratio.2 = x.magnitude.val := by
  simp only [readsAs, ofRatio?, beq_iff_eq] at h
  split at h
  · rw [← Option.some.inj h]
  · cases h

theorem nearestPlace_zero {den : Nat} (hd : 0 < den) : nearestPlace 0 den = 0 := by
  have hgrid : gridScale 0 den = 0 := by simp [gridScale]
  have hlt := lt_of_gridScale hd 0
  have hupper := (nearestSignificand_bounds hd 0).2
  rw [Nat.zero_mul, Nat.mul_zero, Nat.zero_add] at hupper
  have hstep : 0 < den * 2 ^ gridScale 0 den := Nat.mul_pos hd (Nat.two_pow_pos _)
  have hsig : nearestSignificand 0 den = 0 := by
    by_contra hne
    have := Nat.pos_of_ne_zero hne
    nlinarith
  rw [nearestPlace_eq, hgrid, hsig, Nat.zero_mul]

theorem search_readsAs {lead : Int} {counts : List Nat} {d : Decimal} (h : x.search lead counts = some d) :
    x.readsAs d = true := by
  unfold search at h
  obtain ⟨count, -, hfound⟩ := List.exists_of_findSome?_eq_some h
  exact List.find?_some hfound

theorem ratio_fst_ne_zero (hx : x.isZero = false) : x.ratio.1 ≠ 0 := by
  have hmag : x.magnitude.val ≠ 0 := by simpa [isZero] using hx
  have hB : 0 < binadeSize := by decide
  have hsig : x.significand ≠ 0 := by
    unfold significand
    split
    · exact hmag
    · omega
  exact Nat.mul_ne_zero hsig (Nat.two_pow_pos _).ne'

theorem ratio_le (hx : x.magnitude.val + 5 ≤ magnitudeCount) :
    2 * x.ratio.1 ≤ (4 * binadeSize - 9) * 2 ^ topScale := by
  have hB : 9 ≤ binadeSize := by decide
  have hpos : 0 < topScale := by decide
  have hcount : x.magnitude.val + 5 ≤ binadeSize * (topScale + 2) :=
    hx.trans (magnitudeCount_eq.trans (Nat.mul_comm _ _)).le
  have hratio : x.ratio.1 = x.significand * 2 ^ x.scale := rfl
  have hdiv := Nat.div_add_mod x.magnitude.val binadeSize
  have hmod := Nat.mod_lt x.magnitude.val (Nat.lt_of_lt_of_le (by decide) hB)
  have hquot : x.magnitude.val / binadeSize < topScale + 2 := Nat.div_lt_of_lt_mul (by omega)
  have hsig : x.significand ≤ x.magnitude.val % binadeSize + binadeSize := by
    unfold significand
    split
    · rw [Nat.mod_eq_of_lt ‹_›]
      exact Nat.le_add_right _ _
    · exact le_rfl
  have hscale : x.scale = x.magnitude.val / binadeSize - 1 := rfl
  rw [hratio]
  generalize x.magnitude.val / binadeSize = quot at *
  generalize x.magnitude.val % binadeSize = rest at *
  generalize topScale = top at *
  generalize binadeSize = B at *
  rcases Nat.lt_or_ge x.scale top with hlow | hhigh
  · obtain ⟨k, rfl⟩ := Nat.exists_eq_add_of_lt hlow
    calc 2 * (x.significand * 2 ^ x.scale) = x.significand * 2 ^ (x.scale + 1) := by ring
      _ ≤ (4 * B - 9) * 2 ^ (x.scale + k + 1) :=
        Nat.mul_le_mul (by omega) (Nat.pow_le_pow_right (by decide) (by omega))
  · have hquot' : quot = top + 1 := by omega
    have htop : x.scale = top := by omega
    rw [hquot'] at hdiv
    have hrest : rest + 5 ≤ B := by
      have hsplit : B * (top + 2) = B * (top + 1) + B := by ring
      omega
    rw [htop, ← Nat.mul_assoc]
    exact Nat.mul_le_mul_right _ (by omega)

theorem exact_digits_ne_zero (hx : x.isZero = false) : x.exact.digits ≠ 0 := by
  have hratio := ratio_fst_ne_zero hx
  unfold exact
  generalize unitPlace = u
  exact Nat.mul_ne_zero hratio (Nat.pow_pos (by decide)).ne'

theorem exact_ratio (x : Double) : x.exact.ratio = (x.ratio.1 * 5 ^ unitPlace, 10 ^ unitPlace) := by
  have hneg : -(unitPlace : Int) < 0 := by decide
  have habs : (-(unitPlace : Int)).natAbs = unitPlace := Int.natAbs_neg _
  unfold Decimal.ratio exact
  simp only [if_pos hneg, habs, Nat.pow_eq]

theorem exact_isSafe (hx : x.magnitude.val + 5 ≤ magnitudeCount) : x.exact.IsSafe := by
  have hratio := ratio_le hx
  apply Decimal.isSafe_of_ratio
  rw [exact_ratio]
  dsimp only
  generalize unitPlace = u
  have hten : 10 ^ u = 5 ^ u * 2 ^ u := by rw [← Nat.mul_pow]
  calc 2 * (x.ratio.1 * 5 ^ u * 2 ^ u) = 2 * x.ratio.1 * 10 ^ u := by
        rw [hten]
        ring
    _ ≤ (4 * binadeSize - 9) * 2 ^ topScale * 10 ^ u := Nat.mul_le_mul_right _ hratio
    _ = (4 * binadeSize - 9) * (10 ^ u * 2 ^ topScale) := by ring

theorem shortest_spec (hx : x.isZero = false) :
    x.shortest.digits ≠ 0 ∧ (x.magnitude.val + 5 ≤ magnitudeCount → x.shortest.IsSafe) := by
  have hbefore : ((x.search (leadingPlace x.ratio.1 x.ratio.2) (List.range' 1 17)).getD x.exact).digits ≠ 0 ∧
      (x.magnitude.val + 5 ≤ magnitudeCount →
        ((x.search (leadingPlace x.ratio.1 x.ratio.2) (List.range' 1 17)).getD x.exact).IsSafe) := by
    cases hs : x.search (leadingPlace x.ratio.1 x.ratio.2) (List.range' 1 17) with
    | none => exact ⟨exact_digits_ne_zero hx, exact_isSafe⟩
    | some d =>
      have hplace := nearestPlace_of_readsAs (search_readsAs hs)
      refine ⟨?_, fun hlow => ?_⟩
      · intro hzero
        have hmag : x.magnitude.val ≠ 0 := by simpa [isZero] using hx
        have hratio : d.ratio.1 = 0 := Decimal.ratio_fst_of_digits hzero
        rw [hratio, nearestPlace_zero d.ratio_snd_pos] at hplace
        exact hmag hplace.symm
      · rw [← hplace] at hlow
        exact Decimal.isSafe_of_ratio (le_of_nearestPlace d.ratio_snd_pos _ hlow)
  unfold shortest
  rw [if_neg (by simp [hx])]
  refine ⟨Decimal.digits_normalize_ne_zero _ hbefore.1, fun hlow => ?_⟩
  unfold Decimal.IsSafe
  rw [Decimal.value_normalize]
  exact hbefore.2 hlow

/-- The digits that are written and where their point stands. -/
def parts (x : Double) : List Char × Int :=
  if x.isZero then (['0'], 1)
  else (Nat.toDigits 10 x.shortest.digits, (Nat.toDigits 10 x.shortest.digits).length + x.shortest.exponent)

def numeral (x : Double) : Numeral :=
  layoutNumeral x.negative x.parts.1 x.parts.2

theorem parts_ne_nil (x : Double) : x.parts.1 ≠ [] := by
  unfold parts
  split
  · exact List.cons_ne_nil _ _
  · exact Nat.toDigits_ne_nil

theorem isDigit_parts (x : Double) : ∀ c ∈ x.parts.1, c.isDigit = true := by
  unfold parts
  split
  · exact isDigit_zero
  · exact isDigit_toDigits _

theorem chars_numeral (x : Double) : x.numeral.chars = x.text := by
  have hbody : layout x.parts.1 x.parts.2 = if x.isZero then ['0', '.', '0'] else
      layout (Nat.toDigits 10 x.shortest.digits)
        ((Nat.toDigits 10 x.shortest.digits).length + x.shortest.exponent) := by
    unfold parts
    split
    · rfl
    · rfl
  rw [numeral, chars_layoutNumeral x.negative x.parts_ne_nil, hbody]
  unfold text Numeral.signChars
  cases x.negative
  · rfl
  · rfl

theorem wellFormed_numeral (x : Double) : x.numeral.WellFormed := by
  by_cases hx : x.isZero = true
  · have hparts : x.parts = (['0'], 1) := if_pos hx
    rw [numeral, hparts]
    refine ⟨isDigit_zero, (by decide : ['0'] ≠ []), ?_, ?_⟩
    · exact (by decide : ¬(1 < ['0'].length ∧ ['0'].head? = some '0'))
    · intro ds h
      cases h
      exact ⟨by decide, isDigit_zero⟩
  · have hzero : x.isZero = false := by simpa using hx
    have hparts : x.parts.1 = Nat.toDigits 10 x.shortest.digits := by rw [parts, if_neg hx]
    apply wellFormed_layoutNumeral x.negative _ x.isDigit_parts x.parts_ne_nil
    obtain ⟨d, ds, hds, hd⟩ := toDigits_head (Nat.pos_of_ne_zero (shortest_spec hzero).1)
    rw [hparts, hds]
    intro h
    exact hd (Option.some.inj h)

theorem parts_value (x : Double) :
    (appendDigits 0 (x.parts.1.map digitValue) : ℚ) * 10 ^ (x.parts.2 - x.parts.1.length) = x.shortest.value := by
  by_cases hx : x.isZero = true
  · have hparts : x.parts = (['0'], 1) := if_pos hx
    have hshort : x.shortest = ⟨0, 0⟩ := if_pos hx
    have hdigits : appendDigits 0 (['0'].map digitValue) = 0 := rfl
    rw [hparts, hshort, hdigits]
    simp [Decimal.value]
  · have hparts : x.parts = (Nat.toDigits 10 x.shortest.digits,
        (Nat.toDigits 10 x.shortest.digits).length + x.shortest.exponent) := if_neg hx
    rw [hparts, appendDigits_digitValue, Nat.ofDigitChars_ten_toDigits, add_sub_cancel_left]
    rfl

/-- The largest four magnitudes, for which the bound on the errors of rounding is too coarse. -/
theorem value?_largest_isSome (negative : Bool) (k : Fin 4) :
    (numeral ⟨negative, ⟨magnitudeCount - 1 - k, Nat.sub_lt_of_lt (by decide)⟩⟩).value?.isSome = true := by
  revert negative k
  decide +kernel

theorem value?_numeral (x : Double) : ∃ y, x.numeral.value? = some (.float y) := by
  have hbound := x.magnitude.isLt
  rcases Nat.lt_or_ge magnitudeCount (x.magnitude.val + 5) with hhigh | hlow
  · have hpos : 5 < magnitudeCount := by decide
    obtain ⟨k, hk⟩ : ∃ k : Fin 4, x.magnitude.val = magnitudeCount - 1 - k :=
      ⟨⟨magnitudeCount - 1 - x.magnitude.val, by omega⟩, by dsimp only; omega⟩
    have hsome : x.numeral.value?.isSome = true := by
      have hx : x = ⟨x.negative, ⟨magnitudeCount - 1 - k, Nat.sub_lt_of_lt (by decide)⟩⟩ := by
        rw [Double.mk.injEq, Fin.ext_iff]
        exact ⟨rfl, hk⟩
      rw [hx]
      exact value?_largest_isSome x.negative k
    rw [numeral, value?_layoutNumeral, Option.isSome_map] at hsome
    obtain ⟨y, hy⟩ := Option.isSome_iff_exists.1 hsome
    exact ⟨y, by rw [numeral, value?_layoutNumeral, hy]; rfl⟩
  · have hsafe : x.shortest.IsSafe := by
      by_cases hx : x.isZero = true
      · have hshort : x.shortest = ⟨0, 0⟩ := if_pos hx
        rw [hshort, Decimal.IsSafe, Decimal.value]
        push_cast
        rw [zero_mul, mul_zero, zero_mul]
        positivity
      · exact (shortest_spec (by simpa using hx)).2 hlow
    apply layoutNumeral_isSome x.negative x.isDigit_parts x.parts_ne_nil
    rw [parts_value]
    exact hsafe

def reread (x : Double) : Double :=
  match x.numeral.value? with
  | some (.float y) => y
  | _ => x

/-- A written floating-point number is read as some floating-point number. -/
theorem number?_text (x : Double) {rest : List Char} (hr : EndsNumeral rest) :
    number? (x.text ++ rest) = some (.float x.reread, rest) := by
  obtain ⟨y, hy⟩ := value?_numeral x
  have hreread : x.reread = y := by rw [reread, hy]
  rw [← chars_numeral, number?_chars x.wellFormed_numeral hr, hy, hreread]
  rfl

end Double

end ModelContext
