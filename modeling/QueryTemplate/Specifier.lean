import QueryTemplate.Text.Case
import QueryTemplate.Text.Word
import QueryTemplate.Text.Match

/-! Placeholder specifiers and the tables that list them. -/
namespace QueryTemplate

/-- What a placeholder stands for. -/
inductive Kind where
  | integer
  | float
  | array
  | identifier
  | any
deriving DecidableEq, Repr

def Kind.name : Kind → String
  | .integer => "integer"
  | .float => "float"
  | .array => "array"
  | .identifier => "identifier"
  | .any => "any"

/-- How a specifier is recognised in a template. Patterns of other forms are left out; what holds
for any pattern is said of a `Matcher` in place of the table's. -/
inductive Recognition where
  /-- Its token stands there, whatever the case of its letters. -/
  | token
  /-- A question mark stands there with no word character after it. -/
  | bareMark
deriving DecidableEq, Repr

/-- A placeholder token and what it means. -/
structure Specifier where
  token : Text
  kind : Option Kind
  recognition : Recognition
  description : String
deriving DecidableEq, Repr

namespace Specifier

def integer : Specifier :=
  ⟨['?', 'd'], some .integer, .token, "Integer; booleans become 0/1, null becomes NULL"⟩

def float : Specifier :=
  ⟨['?', 'f'], some .float, .token, "Floating-point number, null becomes NULL"⟩

def array : Specifier :=
  ⟨['?', 'a'], some .array, .token, "List of values or map of `column` = value pairs"⟩

def identifier : Specifier :=
  ⟨['?', '#'], some .identifier, .token, "Identifier or list of identifiers, backtick-quoted"⟩

def any : Specifier :=
  ⟨['?'], some .any, .bareMark, "Any scalar: string, number, boolean or null"⟩

/-- The length of the specifier's match at the head of a text. -/
def matchLength? (s : Specifier) (text : Text) : Option Nat :=
  match s.recognition with
  | .token => if Text.beginsWith s.token text then some s.token.length else none
  | .bareMark =>
    match text with
    | '?' :: rest => if rest.head?.any Text.isWord then none else some 1
    | _ => none

end Specifier

/-- Specifiers in order: an earlier one is recognised first and substituted first. -/
structure SpecifierTable where
  specifiers : List Specifier
deriving DecidableEq, Repr

namespace SpecifierTable

/-- The table of the five specifiers. -/
def standard : SpecifierTable := ⟨[.integer, .float, .array, .identifier, .any]⟩

/-- The specifier of a token, whatever the case of its letters; of several with one token the last. -/
def get? (t : SpecifierTable) (token : Text) : Option Specifier :=
  t.specifiers.reverse.find? fun s => s.token == Text.lower token

def kind? (t : SpecifierTable) (token : Text) : Option Kind := (t.get? token).bind (·.kind)

def isRegistered (t : SpecifierTable) (token : Text) : Bool := (t.get? token).isSome

/-- The lengths of the specifiers' matches at the head of a text, in order. A table without
specifiers matches emptiness everywhere. -/
def matchLengths (t : SpecifierTable) (text : Text) : List Nat :=
  if t.specifiers.isEmpty then [0] else t.specifiers.filterMap (·.matchLength? text)

/-- The first specifier that matches decides; after an empty match one that is not empty may still
begin at the same place. -/
def matcher (t : SpecifierTable) : Matcher := fun text =>
  match t.matchLengths text with
  | [] => []
  | 0 :: rest => 0 :: (rest.find? (0 < ·)).toList
  | k :: _ => [k]

end SpecifierTable
end QueryTemplate
