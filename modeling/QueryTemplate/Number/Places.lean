import QueryTemplate.Number.Style

/-! Floating-point numbers with a given number of places or digits. -/
namespace QueryTemplate

namespace Binary64

/-- The magnitude of a finite number as a quotient. -/
def quotient (x : Binary64) : Nat × Nat := scale 2 x.exponent x.significand 1

/-- The nearest decimal with this many places after the point, counted in its last place. -/
def toPlaces (x : Binary64) (places : Nat) : Nat :=
  roundDiv (x.quotient.1 * Nat.pow 10 places) x.quotient.2

/-- The nearest decimal of this many digits, and the exponent of its first. -/
def toDigits (x : Binary64) (count : Nat) : Nat × Int :=
  if x.isZero then (0, 0)
  else
    let lead := Binary64.places x.quotient.1 x.quotient.2 - 1
    let (a, b) := scale 10 (count - 1 - lead) x.quotient.1 x.quotient.2
    let d := roundDiv a b
    if d = Nat.pow 10 count then (d / 10, lead + 1) else (d, lead)

end Binary64

/-- The forms a number takes when its precision is given. -/
inductive FloatForm where
  | fixed
  | exponential
  /-- Whichever of the two suits its size. -/
  | general
deriving DecidableEq, Repr

namespace FloatForm

/-- In decimal digits, with zeros in front up to a number of digits. -/
def digitText (count n : Nat) : Text :=
  let digits := NumberStyle.decimalText n
  NumberStyle.zeros (count - digits.length) ++ digits

/-- A point stands only before digits, unless it is wanted in any case. -/
def withFraction (point : Bool) (whole fraction : Text) : Text :=
  whole ++ if fraction.isEmpty && !point then [] else '.' :: fraction

def dropZeros (digits : Text) : Text := (digits.reverse.dropWhile (· == '0')).reverse

def exponentText (e : Int) : Text := 'e' :: (if e < 0 then '-' else '+') :: digitText 2 e.natAbs

def fixedText (point : Bool) (places : Nat) (x : Binary64) : Text :=
  let digits := digitText (places + 1) (x.toPlaces places)
  withFraction point (digits.take (digits.length - places)) (digits.drop (digits.length - places))

def exponentialText (point : Bool) (places : Nat) (x : Binary64) : Text :=
  let (d, e) := x.toDigits (places + 1)
  let digits := digitText (places + 1) d
  withFraction point (digits.take 1) (digits.drop 1) ++ exponentText e

/-- With this many digits; without an exponent from 0.0001 up to as many places as there are
digits. Zeros at the end go unless a point is wanted in any case. -/
def generalText (point : Bool) (count : Nat) (x : Binary64) : Text :=
  let (d, e) := x.toDigits count
  let digits := digitText count d
  let trim := fun fraction => if point then fraction else dropZeros fraction
  if -4 ≤ e ∧ e < count then
    if e < 0 then withFraction point ['0'] (trim (NumberStyle.zeros (-e - 1).toNat ++ digits))
    else withFraction point (digits.take (e.toNat + 1)) (trim (digits.drop (e.toNat + 1)))
  else withFraction point (digits.take 1) (trim (digits.drop 1)) ++ exponentText e

/-- The number with its sign. -/
def write (form : FloatForm) (point : Bool) (precision : Nat) (x : Binary64) : Text :=
  if x.isNaN then NumberStyle.plain.nan.toList
  else
    (if x.negative then ['-'] else []) ++
      if !x.isFinite then NumberStyle.plain.infinity.toList
      else match form with
        | .fixed => fixedText point precision x
        | .exponential => exponentialText point precision x
        | .general => generalText point (max precision 1) x

end FloatForm
end QueryTemplate
