import QueryTemplate.Number.Binary64

/-! The nearest whole number to a quotient and the nearest floating-point number to a decimal. -/
namespace QueryTemplate

/-- The nearest whole number to `num / den`; from the middle between two, the even one. -/
def roundDiv (num den : Nat) : Nat :=
  let q := num / den
  let twice := 2 * (num % den)
  if twice < den then q
  else if den < twice then q + 1
  else q + q % 2

/-- Multiplies the quotient `num / den` by a power. -/
def scale (base : Nat) (e : Int) (num den : Nat) : Nat × Nat :=
  if 0 ≤ e then (num * base.pow e.toNat, den) else (num, den * base.pow (-e).toNat)

/-- The greatest power of two that a positive quotient reaches. -/
def floorLog2 (num den : Nat) : Int :=
  let guess : Int := num.log2 - den.log2
  let (a, b) := scale 2 (-guess) num den
  if b ≤ a then guess else guess - 1

namespace Binary64

/-- The nearest floating-point number to a quotient; from the middle between two, the even one.
Beyond the greatest it is an infinity. -/
def ofQuotient (negative : Bool) (num den : Nat) : Binary64 :=
  if num = 0 then ofFields negative 0 0
  else
    let q : Int := max (floorLog2 num den - 52) (-1074)
    let (a, b) := scale 2 (-q) num den
    let m := roundDiv a b
    let (m, q) := if m = Nat.pow 2 53 then (Nat.pow 2 52, q + 1) else (m, q)
    if m < Nat.pow 2 52 then ofFields negative 0 m
    else if 2047 ≤ q + 1075 then infinity negative
    else ofFields negative (q + 1075).toNat (m - Nat.pow 2 52)

/-- The nearest floating-point number to `digits · 10 ^ e`. Decimals far outside the range are
settled by their size alone. -/
def ofDecimal (negative : Bool) (digits : Nat) (e : Int) : Binary64 :=
  let size : Int := (Nat.toDigits 10 digits).length + e
  if digits = 0 then ofFields negative 0 0
  else if 400 < size then infinity negative
  else if size < -400 then ofFields negative 0 0
  else
    let (a, b) := scale 10 e digits 1
    ofQuotient negative a b

end Binary64
end QueryTemplate
