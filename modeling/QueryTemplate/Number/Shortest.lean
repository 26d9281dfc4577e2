import QueryTemplate.Number.Rounding

/-! The shortest decimal that reads back as a floating-point number. -/
namespace QueryTemplate

/-- A positive decimal `digits · 10 ^ exponent`. -/
structure Decimal where
  digits : Nat
  exponent : Int
deriving DecidableEq, Repr

/-- Without a zero at the end. -/
def Decimal.trim (d : Decimal) : Decimal :=
  if d.digits % 10 = 0 then ⟨d.digits / 10, d.exponent + 1⟩ else d

namespace Binary64

/-- Does `d · 10 ^ k` read back as the number? The bounds are halfway to the numbers next to it,
and belong to it iff its significand is even. The lower one is nearer below a power of two. -/
def readsBack (x : Binary64) (d : Nat) (k : Int) : Bool :=
  let low := 4 * x.significand - (if x.fraction = 0 ∧ 1 < x.exponentField then 1 else 2)
  let high := 4 * x.significand + 2
  let (a, b) := scale 10 k d 1
  let (a, b) := scale 2 (2 - x.exponent) a b
  if x.significand % 2 = 0 then decide (low * b ≤ a ∧ a ≤ high * b)
  else decide (low * b < a ∧ a < high * b)

/-- The number of places before the decimal point that a positive quotient takes, negative for
zeros after it. -/
def places (num den : Nat) : Int := (Nat.toDigits 10 (num * Nat.pow 10 400 / den)).length - 400

/-- The point of the grid `10 ^ k` that reads back as the number `num / den`: the nearer of its
two neighbours there, and the even one from the middle. -/
def onGrid? (x : Binary64) (num den : Nat) (k : Int) : Option Decimal :=
  let (a, b) := scale 10 (-k) num den
  let d := a / b
  match x.readsBack d k, x.readsBack (d + 1) k with
  | true, true => some ⟨roundDiv a b, k⟩
  | true, false => some ⟨d, k⟩
  | false, true => some ⟨d + 1, k⟩
  | false, false => none

/-- Tries ever finer grids. -/
def shortestFrom (x : Binary64) (num den : Nat) (k : Int) : Nat → Decimal
  | 0 => ⟨0, 0⟩
  | tries + 1 => (x.onGrid? num den k).getD (shortestFrom x num den (k - 1) tries)

/-- The decimal of fewest digits that reads back as a finite number that is not zero, and among
those the nearest; seventeen digits are always enough. Only a carry into a new place can leave a
zero at the end. -/
def shortest (x : Binary64) : Decimal :=
  let (num, den) := scale 2 x.exponent x.significand 1
  (shortestFrom x num den (places num den - 1) 17).trim

end Binary64
end QueryTemplate
