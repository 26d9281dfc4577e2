/-! Floating-point numbers of 64 bits, by their bits. -/
namespace QueryTemplate

/-- One sign bit, eleven bits of exponent and 52 bits of fraction. -/
structure Binary64 where
  bits : UInt64
deriving DecidableEq, Repr

namespace Binary64

def negative (x : Binary64) : Bool := decide (Nat.pow 2 63 ≤ x.bits.toNat)

def exponentField (x : Binary64) : Nat := x.bits.toNat / Nat.pow 2 52 % Nat.pow 2 11

def fraction (x : Binary64) : Nat := x.bits.toNat % Nat.pow 2 52

/-- Neither an infinity nor not a number. -/
def isFinite (x : Binary64) : Bool := x.exponentField != 2047

def isNaN (x : Binary64) : Bool := x.exponentField == 2047 && x.fraction != 0

def isZero (x : Binary64) : Bool := x.exponentField == 0 && x.fraction == 0

/-- The magnitude of a finite number is `significand · 2 ^ exponent`. -/
def significand (x : Binary64) : Nat :=
  if x.exponentField = 0 then x.fraction else Nat.pow 2 52 + x.fraction

def exponent (x : Binary64) : Int := (max x.exponentField 1 : Nat) - 1075

/-- The integer a finite number is equal to, if it is equal to one. -/
def integer? (x : Binary64) : Option Int :=
  if !x.isFinite then none
  else
    let size? : Option Nat :=
      if 0 ≤ x.exponent then some (x.significand * Nat.pow 2 x.exponent.toNat)
      else if x.significand % Nat.pow 2 (-x.exponent).toNat = 0 then
        some (x.significand / Nat.pow 2 (-x.exponent).toNat)
      else none
    size?.map fun n => if x.negative then -(n : Int) else n

/-- Equality of numbers: both zeros are equal, and what is not a number is equal to none. -/
def numEq (x y : Binary64) : Bool :=
  !x.isNaN && !y.isNaN && (x == y || (x.isZero && y.isZero))

def infinity (negative : Bool) : Binary64 :=
  ⟨if negative then 0xfff0000000000000 else 0x7ff0000000000000⟩

def nan : Binary64 := ⟨0x7ff8000000000000⟩

/-- The number with this sign, biased exponent and fraction. -/
def ofFields (negative : Bool) (field fraction : Nat) : Binary64 :=
  ⟨.ofNat ((if negative then Nat.pow 2 63 else 0) + field * Nat.pow 2 52 + fraction)⟩

end Binary64
end QueryTemplate
