import QueryTemplate.Specifier
import QueryTemplate.Text.Blank

/-! Everything in a template that has the shape of a placeholder. -/
namespace QueryTemplate
namespace Candidate

/-- The length of the candidate at the head of a text: as many question marks as can have a
character after them that is not blank, and that character. -/
def length? (text : Text) : Option Nat :=
  let marks := (text.takeWhile (· == '?')).length
  ((List.range' 1 marks).reverse.find? fun k => text[k]?.any (!Text.isBlank ·)).map (· + 1)

def matcher : Matcher := fun text => (length? text).toList

/-- The candidates of a template, from left to right. -/
def all (template : Text) : List Text := (matcher.spans template).map (·.of template)

end Candidate

/-- The candidates that are no token of the table, each once, in the order of first appearance. -/
def SpecifierTable.unknown (t : SpecifierTable) (template : Text) : List Text :=
  ((Candidate.all template).filter (!t.isRegistered ·)).eraseDups

end QueryTemplate
