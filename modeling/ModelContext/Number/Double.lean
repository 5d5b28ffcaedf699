/-!
# Finite binary floating-point numbers

A `Double` is a sign and a magnitude. The magnitudes are the finite ones of IEEE 754 binary64,
each named by its place in their ascending order, which is also its bit pattern without the sign.
`Double.ofRatio?` rounds a quotient of natural numbers to the nearest magnitude, ties to the even
place, and gives nothing where the result would be infinite.
-/

namespace ModelContext

/-- How many magnitudes have the same exponent: 2 to the 52. -/
def binadeSize : Nat := 4503599627370496

/-- How many finite magnitudes there are. -/
def magnitudeCount : Nat := 2047 * binadeSize

/-- The least positive magnitude is 2 to the minus this. -/
def unitPlace : Nat := 1074

structure Double where
  negative : Bool
  magnitude : Fin magnitudeCount
  deriving DecidableEq

namespace Double

/-- The significand of a magnitude, an integer below `2 ^ 53`. -/
def significand (x : Double) : Nat :=
  if x.magnitude.val < binadeSize then x.magnitude.val else x.magnitude.val % binadeSize + binadeSize

/-- The exponent of two that goes with the significand, raised by `unitPlace` to be natural. -/
def scale (x : Double) : Nat :=
  x.magnitude.val / binadeSize - 1

/-- Numerator and denominator of the exact absolute value. -/
def ratio (x : Double) : Nat × Nat :=
  (x.significand * Nat.pow 2 x.scale, Nat.pow 2 unitPlace)

/-- The quotient `num / den` to the nearest integer, a half going to the even one. -/
def divNearestEven (num den : Nat) : Nat :=
  let low := num / den
  let twice := 2 * (num % den)
  if twice < den then low
  else if den < twice then low + 1
  else if low % 2 = 0 then low else low + 1

/-- The exponent, raised by `unitPlace`, of the grid on which `num / den` has 53 significant bits; the
finest grid for what is too small to have so many. -/
def gridScale (num den : Nat) : Nat :=
  let guess := num.log2 + unitPlace - den.log2 - 52
  if num = 0 then 0
  else if num * Nat.pow 2 unitPlace < binadeSize * den * Nat.pow 2 guess then guess - 1
  else guess

/-- The place of the magnitude nearest to `num / den`, counted as if exponents had no end. A
significand that is rounded up to the next power of two carries into the exponent. -/
def nearestPlace (num den : Nat) : Nat :=
  let scale := gridScale num den
  scale * binadeSize + divNearestEven (num * Nat.pow 2 unitPlace) (den * Nat.pow 2 scale)

/-- The nearest number to `num / den`, ties to even; none if that is beyond the largest. -/
def ofRatio? (negative : Bool) (num den : Nat) : Option Double :=
  if h : nearestPlace num den < magnitudeCount then some ⟨negative, ⟨nearestPlace num den, h⟩⟩
  else none

/-- The largest finite magnitude is `(2 ^ 53 - 1) * 2 ^ 971`, and half a step beyond overflows. -/
example :
    (ofRatio? false ((2 * binadeSize - 1) * Nat.pow 2 971) 1).map (·.magnitude.val) = some (magnitudeCount - 1) ∧
    ofRatio? false ((4 * binadeSize - 1) * Nat.pow 2 970) 1 = none := by decide +kernel

def zero (negative : Bool) : Double :=
  ⟨negative, ⟨0, by decide⟩⟩

def isZero (x : Double) : Bool :=
  x.magnitude.val == 0

/-- Equality of values: the two zeros are equal. -/
def same (x y : Double) : Bool :=
  x.magnitude == y.magnitude && (x.negative == y.negative || x.isZero)

/-- An integer, rounded; every integer of 64 bits is far below the largest magnitude. -/
def ofInt (n : Int) : Double :=
  (ofRatio? (n < 0) n.natAbs 1).getD (zero false)

end Double
end ModelContext
