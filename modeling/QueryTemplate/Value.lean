import QueryTemplate.Number.Style

/-! The values that are bound to placeholders. -/
namespace QueryTemplate

/-- A key of a mapping. Other types of keys are left out. -/
inductive Key where
  | null
  | skip
  | bool (b : Bool)
  | int (n : Int)
  | float (x : Binary64)
  | text (s : Text)
deriving DecidableEq, Repr

namespace Key

/-- The integer a key is equal to: a boolean counts as 0 or 1. -/
def integer? : Key → Option Int
  | .bool b => some (if b then 1 else 0)
  | .int n => some n
  | .float x => x.integer?
  | _ => none

/-- Are two keys the same key of a mapping? Numbers are compared across their types. -/
def same (a b : Key) : Bool :=
  match a.integer?, b.integer? with
  | some m, some n => m == n
  | some _, none | none, some _ => false
  | none, none =>
    match a, b with
    | .float x, .float y => x.numEq y
    | .float _, _ | _, .float _ => false
    | _, _ => a == b

def write : Key → Text
  | .null => ['N', 'o', 'n', 'e']
  | .skip => ['S', 'K', 'I', 'P']
  | .bool true => ['T', 'r', 'u', 'e']
  | .bool false => ['F', 'a', 'l', 's', 'e']
  | .int n => intText n
  | .float x => x.text
  | .text s => s

end Key

/-- A value of one of the types that the rules for placeholders speak of, or an object of another
type. A mapping has its entries in the order of their first insertion; it and any other object carry
the name of their type, and an object the items it yields, if it yields any.

Values of types derived from these are taken as plain ones, and left out where they are not written
as plain ones: a member of an enumeration of integers that has its name for its text is none here,
since the rule for integers would write its digits and the rule for single values its name. -/
inductive Value where
  | null
  | skip
  | bool (b : Bool)
  | int (n : Int)
  | float (x : Binary64)
  | text (s : Text)
  | list (items : List Value)
  | tuple (items : List Value)
  | map (typeName : String) (entries : List (Key × Value))
  | other (typeName fullName : String) (items : Option (List Value))
deriving Repr, Inhabited

/-- Puts a value under a key: a key that is there already keeps its place and its first form. -/
def putEntry (key : Key) (value : Value) : List (Key × Value) → List (Key × Value)
  | [] => [(key, value)]
  | (k, v) :: rest => if k.same key then (k, value) :: rest else (k, v) :: putEntry key value rest

/-- The mapping with these entries, later ones replacing earlier ones. -/
def entriesOf (entries : List (Key × Value)) : List (Key × Value) :=
  entries.foldl (fun es e => putEntry e.1 e.2 es) []

def Key.toValue : Key → Value
  | .null => .null
  | .skip => .skip
  | .bool b => .bool b
  | .int n => .int n
  | .float x => .float x
  | .text s => .text s

namespace Value

/-- Both ways of saying that there is no value. -/
def isNull : Value → Bool
  | .null | .skip => true
  | _ => false

/-- The name of the value's type in messages. -/
def typeName : Value → String
  | .null => "NoneType"
  | .skip => "Skip"
  | .bool _ => "bool"
  | .int _ => "int"
  | .float _ => "float"
  | .text _ => "str"
  | .list _ => "list"
  | .tuple _ => "tuple"
  | .map name _ => name
  | .other name _ _ => name

/-- The name of the value's type together with where it comes from. -/
def fullTypeName : Value → String
  | .other _ name _ => name
  | v => v.typeName

/-- The values that an argument list given as one value stands for; none if it yields no items.
No value and every zero are an empty list, a text its characters and a mapping its keys. -/
def items? : Value → Option (List Value)
  | .null | .skip => some []
  | .bool b => if b then none else some []
  | .int n => if n = 0 then some [] else none
  | .float x => if x.isZero then some [] else none
  | .text s => some (s.map fun c => .text [c])
  | .list items | .tuple items => some items
  | .map _ entries => some (entries.map fun e => e.1.toValue)
  | .other _ _ items => items

end Value
end QueryTemplate
