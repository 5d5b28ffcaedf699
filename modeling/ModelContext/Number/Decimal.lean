import ModelContext.Number.Double

/-!
# Decimal numerals as floating-point numbers

A numeral has decimal digits and a power of ten. Digits beyond what a 64-bit word holds only count
as a factor of ten each. `Double.ofDecimal?` rounds the digits to the nearest number and then
scales that once, by a power of ten that is rounded itself. So numerals of up to fifteen digits
and small exponents are read to the nearest number, and longer ones may come out one step away.
Numbers that are too large are refused, and those that are too small are zero.
-/

namespace ModelContext.Double

/-- The largest exponent of ten whose power is a finite number. -/
def maxPowerOfTen : Nat := 308

/-- The number nearest to a natural one, for numbers that are far below the largest. -/
def ofNat (n : Nat) : Double :=
  (ofRatio? false n 1).getD (zero false)

/-- Product with the rounded power `10 ^ k`; none if it is too large. -/
def mulPowerOfTen? (x : Double) (k : Nat) : Option Double :=
  let p := ofNat (Nat.pow 10 k)
  ofRatio? x.negative (x.ratio.1 * p.ratio.1) (x.ratio.2 * p.ratio.2)

/-- Quotient by the rounded power `10 ^ k`, which is never too large. -/
def divPowerOfTen (x : Double) (k : Nat) : Double :=
  let p := ofNat (Nat.pow 10 k)
  (ofRatio? x.negative (x.ratio.1 * p.ratio.2) (x.ratio.2 * p.ratio.1)).getD (zero x.negative)

/-- Quotient by `10 ^ k` in steps of the largest power, until nothing is left. -/
def scaleDown (x : Double) (k : Nat) : Double :=
  if x.isZero then x
  else if k ≤ maxPowerOfTen then x.divPowerOfTen k
  else (x.divPowerOfTen maxPowerOfTen).scaleDown (k - maxPowerOfTen)
termination_by k
decreasing_by
  simp only [maxPowerOfTen] at *
  omega

/-- Product with a power of ten of either sign; none if it is too large. -/
def scaleBy? (x : Double) (exponent : Int) : Option Double :=
  if exponent < 0 then some (x.scaleDown exponent.natAbs)
  else if exponent ≤ maxPowerOfTen then x.mulPowerOfTen? exponent.natAbs
  else if x.isZero then some x
  else none

/-- The digits of a numeral that fit into a 64-bit word, as a number, and how many were left out. -/
def takeWord (word : Nat) : List Nat → Nat × Nat
  | [] => (word, 0)
  | d :: ds => if word * 10 + d < 18446744073709551616 then takeWord (word * 10 + d) ds else (word, ds.length + 1)

/-- The number with the given digits before and after the point and a power of ten. -/
def ofDecimal? (negative : Bool) (whole fraction : List Nat) (exponent : Int) : Option Double :=
  let (word, skipped) := takeWord 0 whole
  let (word, unread) := takeWord word fraction
  { ofNat word with negative }.scaleBy? (skipped + unread - fraction.length + exponent)

end ModelContext.Double
