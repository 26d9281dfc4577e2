import QueryTemplate.Assoc
import QueryTemplate.Value
import QueryTemplate.Text.Quoted

/-! Data as objects, arrays and scalars. -/
namespace QueryTemplate

/-- A document. The fields of an object are in the order of their first appearance. -/
inductive Json where
  | null
  | bool (b : Bool)
  | int (n : Int)
  | float (x : Binary64)
  | string (s : String)
  | array (items : List Json)
  | object (fields : List (String × Json))
deriving Repr, Inhabited

namespace Json

def field? (name : String) : Json → Option Json
  | .object fields => fields.lookup name
  | _ => none

mutual

/-- The value that stands for a document among arguments. -/
def toValue : Json → Value
  | .null => .null
  | .bool b => .bool b
  | .int n => .int n
  | .float x => .float x
  | .string s => .text s.toList
  | .array items => .list (valuesOf items)
  | .object fields => .map "dict" (entriesOf fields)

def valuesOf : List Json → List Value
  | [] => []
  | v :: rest => v.toValue :: valuesOf rest

def entriesOf : List (String × Json) → List (Key × Value)
  | [] => []
  | (name, v) :: rest => (.text name.toList, v.toValue) :: entriesOf rest

end

mutual

/-- Do all floating-point numbers and all strings of a document, the names of its fields among
them, pass a check? -/
def passes (number : Binary64 → Bool) (string : String → Bool) : Json → Bool
  | .float x => number x
  | .string s => string s
  | .array items => pass number string items
  | .object fields => havePassing number string fields
  | _ => true

def pass (number : Binary64 → Bool) (string : String → Bool) : List Json → Bool
  | [] => true
  | v :: rest => v.passes number string && pass number string rest

def havePassing (number : Binary64 → Bool) (string : String → Bool) : List (String × Json) → Bool
  | [] => true
  | (name, v) :: rest => string name && v.passes number string && havePassing number string rest

end

/-- Have documents no numbers but finite ones? -/
def areFinite (documents : List Json) : Bool := pass Binary64.isFinite (fun _ => true) documents

/-- Can documents be written? -/
def areEncodable (documents : List Json) : Bool :=
  pass (fun _ => true) (Text.isEncodable ·.toList) documents

mutual

/-- How a document is shown in messages. -/
def shown : Json → String
  | .null => "None"
  | .bool true => "True"
  | .bool false => "False"
  | .int n => String.ofList (intText n)
  | .float x => String.ofList x.text
  | .string s => quotedString s
  | .array items => "[" ++ ", ".intercalate (shownItems items) ++ "]"
  | .object fields => "\x7b" ++ ", ".intercalate (shownFields fields) ++ "\x7d"

def shownItems : List Json → List String
  | [] => []
  | v :: rest => v.shown :: shownItems rest

def shownFields : List (String × Json) → List String
  | [] => []
  | (name, v) :: rest => (quotedString name ++ ": " ++ v.shown) :: shownFields rest

end

end Json
end QueryTemplate
