import QueryTemplate.Text.Basic

/-! Which known names a mistyped name is like. -/
namespace QueryTemplate
namespace Likeness

def commonFront : Text → Text → Nat
  | a :: as, b :: bs => if a = b then commonFront as bs + 1 else 0
  | _, _ => 0

/-- A part that two texts have in common: where it begins in each, and how long it is. -/
structure Shared where
  inFirst : Nat
  inSecond : Nat
  size : Nat
deriving DecidableEq, Repr

/-- The longest part that two texts share; of several the first in the first text, then in the
second. -/
def longest (a b : Text) : Shared :=
  (List.range a.length).foldl
    (fun best i => (List.range b.length).foldl
      (fun best j =>
        let size := commonFront (a.drop i) (b.drop j)
        if best.size < size then ⟨i, j, size⟩ else best)
      best)
    ⟨0, 0, 0⟩

/-- How many characters match: those of the longest part that both share, and those that match
before it and after it. The depth is bounded by the length of the first text. -/
def matching (depth : Nat) (a b : Text) : Nat :=
  match depth with
  | 0 => 0
  | depth + 1 =>
    let s := longest a b
    if s.size = 0 then 0
    else s.size + matching depth (a.take s.inFirst) (b.take s.inSecond) +
      matching depth (a.drop (s.inFirst + s.size)) (b.drop (s.inSecond + s.size))

/-- Twice the matching characters against all characters of both. -/
def score (a b : Text) : Nat × Nat := (2 * matching a.length a b, a.length + b.length)

/-- Is a quotient at least another one? -/
def atLeast (x y : Nat × Nat) : Bool := decide (y.1 * x.2 ≤ x.1 * y.2)

/-- The names, at most three, that three fifths of the characters speak for, the likest first. -/
def similar (name : String) (known : List String) : List String :=
  let scored := known.map fun k => (score k.toList name.toList, k)
  let near := scored.filter fun s => atLeast s.1 (3, 5)
  let sorted := near.mergeSort fun s t =>
    if atLeast s.1 t.1 && atLeast t.1 s.1 then decide (t.2 ≤ s.2) else atLeast s.1 t.1
  (sorted.take 3).map (·.2)

end Likeness
end QueryTemplate
