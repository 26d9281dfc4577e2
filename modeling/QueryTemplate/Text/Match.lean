import QueryTemplate.Text.Basic

/-! Leftmost matches in a text, none reaching into another, and their replacement. -/
namespace QueryTemplate

/-- A stretch of a text, from its first offset up to the one after its last. -/
structure Span where
  start : Nat
  stop : Nat
deriving DecidableEq, Repr

/-- A matcher tells the lengths of the matches that begin at the head of a text: none, one, or an
empty one and then one that is not. -/
abbrev Matcher := Text → List Nat

namespace Matcher

/-- How far the last of these matches reaches beyond the character it begins at. -/
def reach (lengths : List Nat) : Nat := lengths.getLastD 0 - 1

/-- The matches in a text that begins at offset `i` and whose first characters may still belong to
the match before. -/
def spansFrom (m : Matcher) (i : Nat) : Nat → Text → List Span
  | 0, [] => (m []).map fun k => ⟨i, i + k⟩
  | _ + 1, [] => []
  | 0, c :: rest =>
    (m (c :: rest)).map (fun k => ⟨i, i + k⟩) ++
      spansFrom m (i + 1) (reach (m (c :: rest))) rest
  | taken + 1, _ :: rest => spansFrom m (i + 1) taken rest

def spans (m : Matcher) (text : Text) : List Span := m.spansFrom 0 0 text

/-- Puts `f` of each match in its place. -/
def replaceFrom (m : Matcher) (f : Text → Text) : Nat → Text → Text
  | 0, [] => (m []).flatMap fun k => f (([] : Text).take k)
  | _ + 1, [] => []
  | 0, c :: rest =>
    (m (c :: rest)).flatMap (fun k => f ((c :: rest).take k)) ++
      (if (m (c :: rest)).getLastD 0 = 0 then [c] else []) ++
      replaceFrom m f (reach (m (c :: rest))) rest
  | taken + 1, _ :: rest => replaceFrom m f taken rest

def replace (m : Matcher) (f : Text → Text) (text : Text) : Text := m.replaceFrom f 0 text

end Matcher

namespace Span

/-- The characters of a text that a span covers. -/
def of (span : Span) (text : Text) : Text := (text.drop span.start).take (span.stop - span.start)

end Span
end QueryTemplate
