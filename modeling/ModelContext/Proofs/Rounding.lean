import ModelContext.Number.Decimal
import Mathlib.Tactic.Linarith
import Mathlib.Tactic.Ring

/-!
# Bounds on rounded numbers

A quotient is rounded on the grid on which it has 53 significant bits, so the rounded number is off by at
most half a step. Two consequences carry the reading of numerals: products of two rounded numbers stay
finite if the exact product is four and a half steps below the overflow threshold, and a quotient that is
rounded to a magnitude below the five largest is that far below it.
-/

namespace ModelContext.Double

theorem divNearestEven_bounds {den : Nat} (hd : 0 < den) (num : Nat) :
    2 * num ≤ (2 * divNearestEven num den + 1) * den ∧ 2 * divNearestEven num den * den ≤ 2 * num + den := by
  have hdiv := Nat.div_add_mod num den
  have hmod := Nat.mod_lt num hd
  have hlow : 2 * (num / den) * den = 2 * (den * (num / den)) := by ring
  have hhigh : 2 * (num / den + 1) * den = 2 * (den * (num / den)) + 2 * den := by ring
  have hlow' : (2 * (num / den) + 1) * den = 2 * (den * (num / den)) + den := by ring
  have hhigh' : (2 * (num / den + 1) + 1) * den = 2 * (den * (num / den)) + 3 * den := by ring
  simp only [divNearestEven]
  split
  · omega
  · split
    · omega
    · split <;> omega

/-- On the chosen grid a quotient has at most 53 bits. -/
theorem lt_of_gridScale {den : Nat} (hd : 0 < den) (num : Nat) :
    num * 2 ^ unitPlace < 2 * binadeSize * (den * 2 ^ gridScale num den) := by
  by_cases hnum : num = 0
  · rw [hnum, Nat.zero_mul]
    exact Nat.mul_pos (by decide) (Nat.mul_pos hd (Nat.two_pow_pos _))
  simp only [gridScale, if_neg hnum, Nat.pow_eq]
  generalize unitPlace = u
  generalize hg : num.log2 + u - den.log2 - 52 = guess
  have hguess : num * 2 ^ u < 2 * binadeSize * (den * 2 ^ guess) := by
    calc num * 2 ^ u
        < 2 ^ (num.log2 + 1) * 2 ^ u := Nat.mul_lt_mul_of_pos_right Nat.lt_log2_self (Nat.two_pow_pos _)
      _ = 2 ^ (num.log2 + 1 + u) := (Nat.pow_add ..).symm
      _ ≤ 2 ^ (53 + (den.log2 + guess)) := Nat.pow_le_pow_right (by decide) (by omega)
      _ = 2 * binadeSize * (2 ^ den.log2 * 2 ^ guess) := by rw [Nat.pow_add, Nat.pow_add]; rfl
      _ ≤ 2 * binadeSize * (den * 2 ^ guess) :=
          Nat.mul_le_mul_left _ (Nat.mul_le_mul_right _ (Nat.log2_self_le hd.ne'))
  split
  · rename_i hbelow
    cases guess with
    | zero => exact hguess
    | succ guess =>
      have hstep : binadeSize * den * 2 ^ (guess + 1) = 2 * binadeSize * (den * 2 ^ guess) := by
        rw [Nat.pow_succ]
        ring
      rwa [hstep] at hbelow
  · exact hguess

/-- Unless it is the finest grid, a quotient has at least 53 bits on it. -/
theorem le_of_gridScale {num den : Nat} (h : gridScale num den ≠ 0) :
    binadeSize * (den * 2 ^ gridScale num den) ≤ num * 2 ^ unitPlace := by
  by_cases hnum : num = 0
  · simp [gridScale, hnum] at h
  simp only [gridScale, if_neg hnum, Nat.pow_eq] at h ⊢
  generalize unitPlace = u at h ⊢
  generalize hg : num.log2 + u - den.log2 - 52 = guess at h ⊢
  split at h
  · rename_i hbelow
    rw [if_pos hbelow]
    have hsum : 52 + (den.log2 + 1 + (guess - 1)) = num.log2 + u := by omega
    calc binadeSize * (den * 2 ^ (guess - 1))
        ≤ binadeSize * (2 ^ (den.log2 + 1) * 2 ^ (guess - 1)) :=
          Nat.mul_le_mul_left _ (Nat.mul_le_mul_right _ Nat.lt_log2_self.le)
      _ = 2 ^ (52 + (den.log2 + 1 + (guess - 1))) := by
          rw [Nat.pow_add 2 52, Nat.pow_add 2 (den.log2 + 1)]; rfl
      _ = 2 ^ num.log2 * 2 ^ u := by rw [hsum, Nat.pow_add]
      _ ≤ num * 2 ^ u := Nat.mul_le_mul_right _ (Nat.log2_self_le hnum)
  · rename_i hbelow
    rw [if_neg hbelow, ← Nat.mul_assoc]
    exact Nat.le_of_not_lt hbelow

def topScale : Nat := 2045

def nearestSignificand (num den : Nat) : Nat :=
  divNearestEven (num * Nat.pow 2 unitPlace) (den * Nat.pow 2 (gridScale num den))

theorem nearestPlace_eq (num den : Nat) :
    nearestPlace num den = gridScale num den * binadeSize + nearestSignificand num den := rfl

theorem magnitudeCount_eq : magnitudeCount = (topScale + 2) * binadeSize := rfl

section Significand

variable {den : Nat} (hd : 0 < den) (num : Nat)
include hd

theorem nearestSignificand_bounds :
    2 * (num * 2 ^ unitPlace) ≤ (2 * nearestSignificand num den + 1) * (den * 2 ^ gridScale num den) ∧
      2 * nearestSignificand num den * (den * 2 ^ gridScale num den) ≤
        2 * (num * 2 ^ unitPlace) + den * 2 ^ gridScale num den := by
  unfold nearestSignificand
  generalize unitPlace = u
  exact divNearestEven_bounds (Nat.mul_pos hd (Nat.two_pow_pos _)) _

theorem nearestSignificand_le : nearestSignificand num den ≤ 2 * binadeSize := by
  have hstep : 0 < den * 2 ^ gridScale num den := Nat.mul_pos hd (Nat.two_pow_pos _)
  have hupper := (nearestSignificand_bounds hd num).2
  have hlt := lt_of_gridScale hd num
  generalize den * 2 ^ gridScale num den = step at *
  by_contra hgt
  have hmul := Nat.mul_le_mul_right step (Nat.lt_of_not_le hgt)
  nlinarith

theorem le_nearestSignificand (h : gridScale num den ≠ 0) : binadeSize ≤ nearestSignificand num den := by
  have hstep : 0 < den * 2 ^ gridScale num den := Nat.mul_pos hd (Nat.two_pow_pos _)
  have hlower := (nearestSignificand_bounds hd num).1
  have hle := le_of_gridScale h
  generalize den * 2 ^ gridScale num den = step at *
  by_contra hgt
  have hmul := Nat.mul_le_mul_right step (Nat.lt_of_not_le hgt)
  nlinarith

/-- A quotient that is rounded to a magnitude below the five largest is four and a half steps below the
overflow threshold. -/
theorem le_of_nearestPlace (h : nearestPlace num den + 5 ≤ magnitudeCount) :
    2 * (num * 2 ^ unitPlace) ≤ (4 * binadeSize - 9) * (den * 2 ^ topScale) := by
  have hlt := lt_of_gridScale hd num
  have hlower := (nearestSignificand_bounds hd num).1
  have hsig : gridScale num den ≠ 0 → binadeSize ≤ nearestSignificand num den := le_nearestSignificand hd num
  have hB : 5 ≤ binadeSize := by decide
  rw [nearestPlace_eq, magnitudeCount_eq] at h
  generalize nearestSignificand num den = q at *
  generalize num * 2 ^ unitPlace = n at *
  generalize topScale = top at *
  rcases Nat.lt_trichotomy (gridScale num den) top with hlow | htop | hhigh
  · have hfiner : 2 * (den * 2 ^ gridScale num den) ≤ den * 2 ^ top := by
      have hpow := Nat.pow_le_pow_right (n := 2) (by decide) (Nat.succ_le_of_lt hlow)
      have hden := Nat.mul_le_mul_left den hpow
      rw [Nat.succ_eq_add_one, Nat.pow_succ] at hden
      linarith
    calc 2 * n ≤ 2 * binadeSize * (2 * (den * 2 ^ gridScale num den)) := by linarith
      _ ≤ 2 * binadeSize * (den * 2 ^ top) := Nat.mul_le_mul_left _ hfiner
      _ ≤ (4 * binadeSize - 9) * (den * 2 ^ top) := Nat.mul_le_mul_right _ (by omega)
  · rw [htop] at h hlower
    have hq : 2 * q + 1 ≤ 4 * binadeSize - 9 := by
      rw [Nat.add_mul] at h
      omega
    exact hlower.trans (Nat.mul_le_mul_right _ hq)
  · exfalso
    have hq := hsig (by omega)
    have hscale := Nat.mul_le_mul_right binadeSize (Nat.succ_le_of_lt hhigh)
    rw [Nat.succ_mul] at hscale
    rw [Nat.add_mul] at h
    omega

/-- A quotient less than half a step above the largest magnitude is rounded to a finite one. -/
theorem nearestPlace_lt (h : 2 * (num * 2 ^ unitPlace) < (4 * binadeSize - 1) * (den * 2 ^ topScale)) :
    nearestPlace num den < magnitudeCount := by
  have hupper := (nearestSignificand_bounds hd num).2
  have hsig : nearestSignificand num den ≤ 2 * binadeSize := nearestSignificand_le hd num
  have hgrid : gridScale num den ≠ 0 → binadeSize * (den * 2 ^ gridScale num den) ≤ num * 2 ^ unitPlace :=
    le_of_gridScale
  have hB : 1 ≤ binadeSize := by decide
  rw [nearestPlace_eq, magnitudeCount_eq]
  generalize nearestSignificand num den = q at *
  generalize num * 2 ^ unitPlace = n at *
  generalize topScale = top at *
  rcases Nat.lt_trichotomy (gridScale num den) top with hlow | htop | hhigh
  · have hscale := Nat.mul_le_mul_right binadeSize (Nat.succ_le_of_lt hlow)
    rw [Nat.succ_mul] at hscale
    rw [Nat.add_mul]
    omega
  · rw [htop] at hupper ⊢
    have hq : q < 2 * binadeSize := by
      by_contra hge
      have hmul := Nat.mul_le_mul_right (den * 2 ^ top) (Nat.le_of_not_lt hge)
      have hsub : (4 * binadeSize - 1) * (den * 2 ^ top) + den * 2 ^ top =
          4 * binadeSize * (den * 2 ^ top) := by
        rw [← Nat.succ_mul]
        congr 1
      nlinarith
    rw [Nat.add_mul]
    omega
  · exfalso
    have hn := hgrid (by omega)
    have hcoarser : 2 * (den * 2 ^ top) ≤ den * 2 ^ gridScale num den := by
      have hpow := Nat.pow_le_pow_right (n := 2) (by decide) (Nat.succ_le_of_lt hhigh)
      have hden := Nat.mul_le_mul_left den hpow
      rw [Nat.succ_eq_add_one, Nat.pow_succ] at hden
      linarith
    have hmul := Nat.mul_le_mul_left (2 * binadeSize) hcoarser
    have hsub : (4 * binadeSize - 1) * (den * 2 ^ top) ≤ 2 * binadeSize * (2 * (den * 2 ^ top)) := by
      calc (4 * binadeSize - 1) * (den * 2 ^ top)
          ≤ 4 * binadeSize * (den * 2 ^ top) := Nat.mul_le_mul_right _ (Nat.sub_le _ _)
        _ = 2 * binadeSize * (2 * (den * 2 ^ top)) := by ring
    linarith

end Significand

/-- The place of a magnitude tells its value. -/
theorem significand_mul_scale {x : Double} {scale q : Nat} (hx : x.magnitude.val = scale * binadeSize + q)
    (hlow : scale ≠ 0 → binadeSize ≤ q) (hhigh : q ≤ 2 * binadeSize) :
    x.significand * 2 ^ x.scale = q * 2 ^ scale := by
  have hB : 0 < binadeSize := by decide
  unfold significand Double.scale
  rw [hx]
  generalize binadeSize = B at *
  rcases Nat.lt_or_ge q B with hq | hq
  · have hscale : scale = 0 := by
      by_contra hne
      exact absurd (hlow hne) (by omega)
    subst hscale
    simp [hq, Nat.div_eq_of_lt hq]
  · obtain ⟨r, rfl⟩ := Nat.exists_eq_add_of_le hq
    have hplace : scale * B + (B + r) = r + B * (scale + 1) := by ring
    rw [hplace, if_neg (by nlinarith), Nat.add_mul_mod_self_left, Nat.add_mul_div_left _ _ hB]
    rcases Nat.lt_or_ge r B with hr | hr
    · rw [Nat.mod_eq_of_lt hr, Nat.div_eq_of_lt hr, Nat.zero_add, Nat.add_sub_cancel, Nat.add_comm]
    · have hr : r = B := by omega
      subst hr
      rw [Nat.mod_self, Nat.div_self hB, Nat.zero_add, Nat.add_comm 1, Nat.add_sub_cancel, Nat.pow_succ]
      ring

theorem ratio_ofNat (n : Nat) :
    (ofNat n).ratio.1 = nearestSignificand n 1 * 2 ^ gridScale n 1 ∨ (ofNat n).ratio.1 = 0 := by
  unfold ofNat ofRatio?
  split
  · left
    exact significand_mul_scale (nearestPlace_eq n 1) (le_nearestSignificand Nat.one_pos n)
      (nearestSignificand_le Nat.one_pos n)
  · right
    exact Nat.zero_mul _

theorem ratio_snd (x : Double) : x.ratio.2 = 2 ^ unitPlace := by
  unfold ratio
  generalize unitPlace = u
  rfl

theorem ratio_withSign (x : Double) (negative : Bool) : ({ x with negative } : Double).ratio = x.ratio := rfl

theorem ofRatio?_isSome {num den : Nat} (negative : Bool) (h : nearestPlace num den < magnitudeCount) :
    (ofRatio? negative num den).isSome := by
  rw [ofRatio?, dif_pos h]
  rfl

theorem ofNat_zero : ofNat 0 = zero false := by decide +kernel

/-- Rounding a natural number raises it by at most half a step. -/
theorem ratio_ofNat_le (n : Nat) :
    2 * binadeSize * (ofNat n).ratio.1 ≤ (2 * binadeSize + 1) * (n * 2 ^ unitPlace) := by
  rcases Nat.eq_zero_or_pos n with rfl | hn
  · rw [ofNat_zero]
    exact Nat.zero_le _
  have hupper := (nearestSignificand_bounds Nat.one_pos n).2
  have hstep : binadeSize * 2 ^ gridScale n 1 ≤ n * 2 ^ unitPlace := by
    by_cases hscale : gridScale n 1 = 0
    · have hfine : binadeSize ≤ 2 ^ unitPlace := Nat.pow_le_pow_right (n := 2) (by decide) (by decide : 52 ≤ unitPlace)
      rw [hscale, Nat.pow_zero, Nat.mul_one]
      exact hfine.trans (Nat.le_mul_of_pos_left _ hn)
    · simpa using le_of_gridScale hscale
  rw [Nat.one_mul] at hupper
  rcases ratio_ofNat n with h | h
  · rw [h]
    generalize n * 2 ^ unitPlace = value at *
    nlinarith
  · simp [h]

/-- A product of two rounded numbers is finite if the exact product is far enough below the threshold. -/
theorem mulPowerOfTen?_isSome {n k : Nat} (negative : Bool)
    (h : 2 * (n * 10 ^ k * 2 ^ unitPlace) ≤ (4 * binadeSize - 9) * 2 ^ topScale) :
    ({ ofNat n with negative }.mulPowerOfTen? k).isSome := by
  have hx := ratio_ofNat_le n
  have hy := ratio_ofNat_le (10 ^ k)
  have hB : 9 ≤ binadeSize := by decide
  apply ofRatio?_isSome
  rw [ratio_withSign, ratio_snd, ratio_snd, Nat.pow_eq]
  have hu : 0 < 2 ^ unitPlace := Nat.two_pow_pos _
  have htop : 0 < 2 ^ topScale := Nat.two_pow_pos _
  apply nearestPlace_lt (Nat.mul_pos hu hu) (_ * _)
  generalize (ofNat n).ratio.1 = x at *
  generalize (ofNat (10 ^ k)).ratio.1 = y at *
  generalize 10 ^ k = power at *
  generalize 2 ^ unitPlace = u at *
  generalize 2 ^ topScale = top at *
  obtain ⟨b, hb⟩ := Nat.exists_eq_add_of_le hB
  have hsub₁ : 4 * binadeSize - 9 = 4 * b + 27 := by omega
  have hsub₂ : 4 * binadeSize - 1 = 4 * b + 35 := by omega
  rw [hsub₁] at h
  rw [hsub₂]
  generalize binadeSize = B at *
  subst hb
  have hfactor : (2 * (9 + b) + 1) * (2 * (9 + b) + 1) * (4 * b + 27) < 4 * ((9 + b) * (9 + b)) * (4 * b + 35) := by
    nlinarith
  apply Nat.lt_of_mul_lt_mul_left (a := 4 * ((9 + b) * (9 + b)))
  calc 4 * ((9 + b) * (9 + b)) * (2 * (x * y * u))
      = 2 * u * (2 * (9 + b) * x * (2 * (9 + b) * y)) := by ring
    _ ≤ 2 * u * ((2 * (9 + b) + 1) * (n * u) * ((2 * (9 + b) + 1) * (power * u))) :=
        Nat.mul_le_mul_left _ (Nat.mul_le_mul hx hy)
    _ = (2 * (9 + b) + 1) * (2 * (9 + b) + 1) * (u * u) * (2 * (n * power * u)) := by ring
    _ ≤ (2 * (9 + b) + 1) * (2 * (9 + b) + 1) * (u * u) * ((4 * b + 27) * top) := Nat.mul_le_mul_left _ h
    _ = (2 * (9 + b) + 1) * (2 * (9 + b) + 1) * (4 * b + 27) * (u * u * top) := by ring
    _ < 4 * ((9 + b) * (9 + b)) * (4 * b + 35) * (u * u * top) :=
        Nat.mul_lt_mul_of_pos_right hfactor (Nat.mul_pos (Nat.mul_pos hu hu) htop)
    _ = 4 * ((9 + b) * (9 + b)) * ((4 * b + 35) * (u * u * top)) := by ring

/-- No power of ten beyond the largest finite one is far enough below the threshold. -/
theorem le_maxPowerOfTen {k : Nat} (h : 2 * (10 ^ k * 2 ^ unitPlace) ≤ (4 * binadeSize - 9) * 2 ^ topScale) :
    k ≤ maxPowerOfTen := by
  by_contra hk
  have hpow : 10 ^ (maxPowerOfTen + 1) ≤ 10 ^ k := Nat.pow_le_pow_right (by decide) (Nat.lt_of_not_le hk)
  have hlarge : (4 * binadeSize - 9) * 2 ^ topScale < 2 * (10 ^ (maxPowerOfTen + 1) * 2 ^ unitPlace) := by
    decide +kernel
  have hmul := Nat.mul_le_mul_left 2 (Nat.mul_le_mul_right (2 ^ unitPlace) hpow)
  exact absurd (hmul.trans h) (Nat.not_le_of_lt hlarge)

/-- A number whose exact value is far enough below the threshold can be scaled to it. -/
theorem scaleBy?_isSome {n : Nat} {exponent : Int} (negative : Bool)
    (h : ∀ k : Nat, exponent = k → 2 * (n * 10 ^ k * 2 ^ unitPlace) ≤ (4 * binadeSize - 9) * 2 ^ topScale) :
    ({ ofNat n with negative }.scaleBy? exponent).isSome := by
  unfold scaleBy?
  split
  · rfl
  · have hbound := h exponent.natAbs (by omega)
    split
    · exact mulPowerOfTen?_isSome negative hbound
    · rename_i hlarge
      rcases Nat.eq_zero_or_pos n with rfl | hn
      · rw [ofNat_zero]
        rfl
      · exfalso
        have hle : 2 * (10 ^ exponent.natAbs * 2 ^ unitPlace) ≤ 2 * (n * 10 ^ exponent.natAbs * 2 ^ unitPlace) :=
          Nat.mul_le_mul_left _ (Nat.mul_le_mul_right _ (Nat.le_mul_of_pos_left _ hn))
        have := le_maxPowerOfTen (hle.trans hbound)
        omega

end ModelContext.Double
