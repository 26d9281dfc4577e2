/-! Sets of characters given by ranges of their numbers. -/
namespace QueryTemplate.Text

/-- Ranges of character numbers, ends included, in increasing order. -/
abbrev Ranges := List (Nat × Nat)

/-- Looks no further than the first range that ends at or after the number. -/
def Ranges.has : Ranges → Nat → Bool
  | [], _ => false
  | (lo, hi) :: rest, n => if n ≤ hi then decide (lo ≤ n) else Ranges.has rest n

end QueryTemplate.Text
