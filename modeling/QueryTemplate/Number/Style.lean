import QueryTemplate.Number.Shortest
import QueryTemplate.Text.Basic

/-! How floating-point numbers are written. -/
namespace QueryTemplate

/-- The choices of a written form. -/
structure NumberStyle where
  /-- The least and the greatest exponent of the leading digit that is written without `e`. -/
  lowest : Int
  highest : Int
  /-- The fewest digits of an exponent. -/
  exponentDigits : Nat
  infinity : String
  nan : String

namespace NumberStyle

/-- Positional from 0.0001 up to 16 places, always with a digit after the point; otherwise with a
signed exponent of two digits at least. -/
def plain : NumberStyle := ⟨-4, 15, 2, "inf", "nan"⟩

/-- As `plain`, with the names that data files use for what has no digits. -/
def data : NumberStyle := { plain with infinity := "Infinity", nan := "NaN" }

def decimalText (n : Nat) : Text := Nat.toDigits 10 n

def zeros (n : Nat) : Text := List.replicate n '0'

/-- The digits with the point after `point` of them. -/
def positional (digits : Text) (point : Int) : Text :=
  if point ≤ 0 then '0' :: '.' :: zeros (-point).toNat ++ digits
  else if digits.length ≤ point.toNat then
    digits ++ zeros (point.toNat - digits.length) ++ ['.', '0']
  else digits.take point.toNat ++ '.' :: digits.drop point.toNat

def exponential (style : NumberStyle) (digits : Text) (exponent : Int) : Text :=
  let size := decimalText exponent.natAbs
  digits.take 1 ++ (if digits.length ≤ 1 then [] else '.' :: digits.drop 1) ++
    'e' :: (if exponent < 0 then '-' else '+') ::
    zeros (style.exponentDigits - size.length) ++ size

def magnitude (style : NumberStyle) (x : Binary64) : Text :=
  if x.isZero then ['0', '.', '0']
  else
    let d := x.shortest
    let digits := decimalText d.digits
    let lead : Int := digits.length - 1 + d.exponent
    if style.lowest ≤ lead ∧ lead ≤ style.highest then positional digits (lead + 1)
    else style.exponential digits lead

def write (style : NumberStyle) (x : Binary64) : Text :=
  if x.isNaN then style.nan.toList
  else (if x.negative then ['-'] else []) ++
    (if x.isFinite then style.magnitude x else style.infinity.toList)

end NumberStyle

/-- The shortest form that reads back. -/
def Binary64.text (x : Binary64) : Text := NumberStyle.plain.write x

/-- An integer in decimal digits. -/
def intText (n : Int) : Text := (if n < 0 then ['-'] else []) ++ Nat.toDigits 10 n.natAbs

end QueryTemplate
