/-! Text as a list of characters, with the cuts and searches that templates need. -/
namespace QueryTemplate

/-- Templates, tokens and values are read character by character. -/
abbrev Text := List Char

namespace Text

/-- Is the part somewhere inside the text, as one run of characters? -/
def occursIn (part : Text) : Text → Bool
  | [] => part.isEmpty
  | c :: rest => part.isPrefixOf (c :: rest) || occursIn part rest

theorem occursIn_iff (part text : Text) : part.occursIn text = true ↔ part <:+: text := by
  induction text with
  | nil => simp [occursIn, List.infix_nil]
  | cons c rest ih =>
    rw [occursIn, Bool.or_eq_true, List.isPrefixOf_iff_prefix, ih, List.infix_cons_iff]

/-- The position an offset names in a text of `n` characters: a negative offset counts from the
end, and no position lies outside the text. -/
def position (n : Nat) (i : Int) : Nat :=
  if i < 0 then (i + n).toNat else min i.toNat n

/-- The characters from one offset up to another. -/
def slice (text : Text) (i j : Int) : Text :=
  (text.take (position text.length j)).drop (position text.length i)

theorem position_of_nonneg (n : Nat) {i : Int} (hi : 0 ≤ i) : position n i = min i.toNat n := by
  rw [position, if_neg (by omega)]

theorem position_natCast (n i : Nat) : position n i = min i n :=
  position_of_nonneg n (Int.natCast_nonneg i)

theorem slice_natCast (text : Text) (i j : Nat) (hij : i ≤ j) (hj : j ≤ text.length) :
    text.slice i j = (text.drop i).take (j - i) := by
  have hi : min i text.length = i := by omega
  have hj' : min j text.length = j := by omega
  simp only [slice, position_natCast, hi, hj', List.drop_take]

end Text
end QueryTemplate
