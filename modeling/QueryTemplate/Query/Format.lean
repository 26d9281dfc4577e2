import QueryTemplate.Query.Block
import QueryTemplate.Query.Escaper
import QueryTemplate.Specifier
import QueryTemplate.Value

/-! How a value is written for a placeholder. -/
namespace QueryTemplate

/-- The two forms of an array. -/
inductive ArrayShape where
  | list
  | map
deriving DecidableEq, Repr

def listSeparator : Text := [',', ' ']

def identifierQuote : Char := '\x60'

/-- Are the keys equal to 0, 1, 2, … from `i` on? -/
def Key.countFrom (i : Int) : List Key → Bool
  | [] => true
  | k :: rest => k.integer? == some i && countFrom (i + 1) rest

def Key.isBool : Key → Bool
  | .bool _ => true
  | _ => false

/-- A mapping has the shape of a list iff its keys, none of them a boolean, count from zero. -/
def ArrayShape.ofKeys (keys : List Key) : ArrayShape :=
  if keys.any Key.isBool then .map else if Key.countFrom 0 keys then .list else .map

/-- The shape of an array value; `none` for a value that is no array. -/
def Value.arrayShape? : Value → Option ArrayShape
  | .list _ | .tuple _ => some .list
  | .map _ entries => some (.ofKeys (entries.map (·.1)))
  | _ => none

/-- A value that is no array was asked for its shape. -/
structure NoArray where
  fullTypeName : String
deriving DecidableEq, Repr

def NoArray.message (e : NoArray) : String :=
  "'" ++ e.fullTypeName ++ "' object has no attribute 'keys'"

def Value.arrayShape (v : Value) : Except NoArray ArrayShape :=
  match v.arrayShape? with
  | some shape => .ok shape
  | none => .error ⟨v.fullTypeName⟩

namespace Format

/-- A text in quotation marks. -/
def literal (e : Escaper) (s : Text) : Escaping Text := do
  let escaped ← Escaping.escape e s
  pure ('\'' :: escaped ++ ['\''])

/-- A name in backticks. -/
def name (e : Escaper) (s : Text) : Escaping Text := do
  let escaped ← Escaping.escape e s
  pure (identifierQuote :: escaped ++ [identifierQuote])

/-- One after the other, up to the first that fails. -/
def each {α β : Type} (f : α → Escaping β) : List α → Escaping (List β)
  | [] => pure []
  | a :: rest => do
    let b ← f a
    let bs ← each f rest
    pure (b :: bs)

def joined (parts : List Text) : Text := listSeparator.intercalate parts

/-- Integers, whatever their own text is, booleans as integers, and the omission token for no value. -/
def integer (token : Text) : Value → Escaping Text
  | .bool b => pure (intText (if b then 1 else 0))
  | .int n => pure (intText n)
  | v => if v.isNull then pure omissionToken else .refuse (.invalidValue token v.typeName)

/-- Finite floating-point numbers, and the omission token for no value. -/
def float (token : Text) : Value → Escaping Text
  | .float x => if x.isFinite then pure x.text else .refuse (.invalidValue token "float")
  | v => if v.isNull then pure omissionToken else .refuse (.invalidValue token v.typeName)

/-- The text of an item that is a name. -/
def itemName (token : Text) : Value → Escaping Text
  | .text (c :: s) => pure (c :: s)
  | v => .refuse (.invalidValue token v.typeName)

/-- Every item is checked before the first is escaped. -/
def names (e : Escaper) (token : Text) (items : List Value) : Escaping Text := do
  let ss ← each (itemName token) items
  let parts ← each (name e) ss
  pure (joined parts)

/-- A name, or names in a list or tuple. -/
def identifier (e : Escaper) (token : Text) : Value → Escaping Text
  | .list items | .tuple items => names e token items
  | .text (c :: s) => name e (c :: s)
  | v => .refuse (.invalidValue token v.typeName)

/-- The rule for a single value, wherever it stands. A number is written as its own text. -/
def scalar (e : Escaper) (token : Text) : Value → Escaping Text
  | .null | .skip => pure omissionToken
  | .bool b => pure (if b then ['1'] else ['0'])
  | .int n => pure (intText n)
  | .float x => if x.isFinite then pure x.text else .refuse (.invalidValue token "float")
  | .text s => literal e s
  | v => .refuse (.invalidType v.typeName token)

def items (e : Escaper) (token : Text) (vs : List Value) : Escaping Text := do
  let parts ← each (scalar e token) vs
  pure (joined parts)

/-- A name and the value it is set to. -/
def assignment (e : Escaper) (token : Text) (entry : Key × Value) : Escaping Text := do
  let column ← name e entry.1.write
  let value ← scalar e token entry.2
  pure (column ++ [' ', '=', ' '] ++ value)

def assignments (e : Escaper) (token : Text) (entries : List (Key × Value)) : Escaping Text := do
  let parts ← each (assignment e token) entries
  pure (joined parts)

/-- Items of a list, tuple or mapping that counts from zero; assignments of any other mapping. -/
def array (e : Escaper) (token : Text) : Value → Escaping Text
  | .list vs | .tuple vs => items e token vs
  | .map _ entries =>
    match ArrayShape.ofKeys (entries.map (·.1)) with
    | .list => items e token (entries.map (·.2))
    | .map => assignments e token entries
  | v => .refuse (.invalidValue token v.typeName)

end Format

/-- Writes a value for a placeholder of the specifier. -/
def Specifier.format (s : Specifier) (e : Escaper) (v : Value) : Escaping Text :=
  match s.kind with
  | some .integer => Format.integer s.token v
  | some .float => Format.float s.token v
  | some .array => Format.array e s.token v
  | some .identifier => Format.identifier e s.token v
  | some .any => Format.scalar e s.token v
  | none => .fail (.defect .unhandledKind)

end QueryTemplate
