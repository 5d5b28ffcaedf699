import ModelContext.Number.Double

/-!
# The shortest decimal form

`Double.shortest` finds the fewest digits that round to a given number, and of those the nearest
to it. `Double.text` lays them out: positional notation from `1e-5` up to `1e16`, with `.0` after
an integer, and an exponent outside that range.
-/

namespace ModelContext.Double

/-- A decimal number: `digits * 10 ^ exponent`. -/
structure Decimal where
  digits : Nat
  exponent : Int
  deriving DecidableEq

namespace Decimal

/-- Numerator and denominator of a decimal. -/
def ratio (d : Decimal) : Nat × Nat :=
  if d.exponent < 0 then (d.digits, Nat.pow 10 d.exponent.natAbs)
  else (d.digits * Nat.pow 10 d.exponent.natAbs, 1)

/-- Moves the zeros at the end of at most `limit` digits into the exponent. -/
def normalize : Nat → Decimal → Decimal
  | 0, d => d
  | limit + 1, d =>
    if d.digits % 10 = 0 ∧ d.digits ≠ 0 then normalize limit ⟨d.digits / 10, d.exponent + 1⟩ else d

end Decimal

/-- Does the decimal round to the number? -/
def readsAs (x : Double) (d : Decimal) : Bool :=
  (ofRatio? x.negative d.ratio.1 d.ratio.2) == some x

/-- The decimal exponent of the leading digit of `num / den`, for a positive quotient. -/
def leadingPlace (num den : Nat) : Int :=
  let guess : Int := ((num.log2 : Int) - den.log2) * 1233 / 4096
  let below (e : Int) : Bool :=
    if e < 0 then num * Nat.pow 10 e.natAbs < den else num < den * Nat.pow 10 e.natAbs
  if below guess then guess - 1 else if below (guess + 1) then guess else guess + 1

/-- The two decimals with `count` digits that enclose the number, whose leading digit stands at
`10 ^ lead`; the nearer first, and of two equally near ones the even one. -/
def neighbours (x : Double) (lead : Int) (count : Nat) : List Decimal :=
  let (num, den) := x.ratio
  let exponent := lead + 1 - count
  let (num, den) :=
    if exponent < 0 then (num * Nat.pow 10 exponent.natAbs, den) else (num, den * Nat.pow 10 exponent.natAbs)
  let low := num / den
  let near := divNearestEven num den
  [⟨near, exponent⟩, ⟨if near = low then low + 1 else low, exponent⟩]

/-- The first decimal that reads back, over the given digit counts. -/
def search (x : Double) (lead : Int) (counts : List Nat) : Option Decimal :=
  counts.findSome? fun count => (x.neighbours lead count).find? x.readsAs

/-- The exact decimal form of a number. -/
def exact (x : Double) : Decimal :=
  ⟨x.ratio.1 * Nat.pow 5 unitPlace, -unitPlace⟩

/-- The fewest digits that round to the number; seventeen always do. -/
def shortest (x : Double) : Decimal :=
  if x.isZero then ⟨0, 0⟩
  else
    let d := (x.search (leadingPlace x.ratio.1 x.ratio.2) (List.range' 1 17)).getD x.exact
    d.normalize 1100

/-- Lays out digits whose decimal point stands after the first `point` of them. -/
def layout (digits : List Char) (point : Int) : List Char :=
  let count : Int := digits.length
  if 0 < point ∧ point ≤ 16 then
    if count ≤ point then digits ++ List.replicate (point - count).toNat '0' ++ ['.', '0']
    else digits.take point.toNat ++ '.' :: digits.drop point.toNat
  else if -5 < point ∧ point ≤ 0 then
    ['0', '.'] ++ List.replicate point.natAbs '0' ++ digits
  else
    let mantissa := match digits with
      | d :: e :: more => d :: '.' :: e :: more
      | few => few
    let exponent := point - 1
    mantissa ++ 'e' :: (if exponent < 0 then '-' else '+') :: Nat.toDigits 10 exponent.natAbs

/-- The text of a number: its shortest digits, with a point or an exponent. -/
def text (x : Double) : List Char :=
  let d := x.shortest
  let body := if x.isZero then ['0', '.', '0'] else
    let digits := Nat.toDigits 10 d.digits
    layout digits (digits.length + d.exponent)
  if x.negative then '-' :: body else body

end ModelContext.Double
