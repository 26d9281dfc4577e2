import QueryTemplate.Specifier

/-! The placeholders of a template. -/
namespace QueryTemplate

/-- An occurrence of a specifier, numbered from left to right. Its offsets count characters; a
negative one counts from the end of the template. -/
structure Placeholder where
  token : Text
  kind : Option Kind
  position : Nat
  start : Int
  stop : Int
deriving DecidableEq, Repr

namespace SpecifierTable

/-- The placeholder at a span. -/
def placeholderAt (t : SpecifierTable) (template : Text) (position : Nat) (span : Span) :
    Placeholder :=
  let token := Text.lower (span.of template)
  ⟨token, t.kind? token, position, span.start, span.stop⟩

/-- The placeholders at the matches of a matcher, from left to right. -/
def scanBy (t : SpecifierTable) (m : Matcher) (template : Text) : List Placeholder :=
  (m.spans template).mapIdx (t.placeholderAt template)

/-- Every placeholder of a template, from left to right. -/
def scan (t : SpecifierTable) (template : Text) : List Placeholder := t.scanBy t.matcher template

end SpecifierTable
end QueryTemplate
