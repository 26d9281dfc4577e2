import QueryTemplate.Value
import QueryTemplate.Text.Quoted

/-! How values are shown in messages. -/
namespace QueryTemplate

def Key.shown : Key → Text
  | .text s => Text.quoted s
  | k => k.write

namespace Value

def commaSeparated (parts : List Text) : Text := [',', ' '].intercalate parts

/-- A mapping by its entries, between braces or as a list of pairs, after the name of its type
where that is wanted. -/
def shownMap (typeName : String) (entries : List (Text × Text)) : Text :=
  let braced := '\x7b' :: commaSeparated (entries.map fun (k, v) => k ++ [':', ' '] ++ v) ++ ['\x7d']
  match typeName with
  | "mappingproxy" => typeName.toList ++ '(' :: braced ++ [')']
  | "OrderedDict" =>
    let pairs := entries.map fun (k, v) => '(' :: k ++ [',', ' '] ++ v ++ [')']
    typeName.toList ++ if pairs.isEmpty then ['(', ')']
      else ['(', '['] ++ commaSeparated pairs ++ [']', ')']
  | _ => braced

mutual

/-- A value as it is shown within others: text between quotation marks. -/
def shown : Value → Text
  | .null => Key.null.write
  | .skip => Key.skip.write
  | .bool b => (Key.bool b).write
  | .int n => intText n
  | .float x => x.text
  | .text s => Text.quoted s
  | .list items => '[' :: commaSeparated (shownItems items) ++ [']']
  | .tuple [item] => '(' :: item.shown ++ [',', ')']
  | .tuple items => '(' :: commaSeparated (shownItems items) ++ [')']
  | .map name entries => shownMap name (shownEntries entries)
  | .other name _ _ => '<' :: name.toList ++ [' ', 'o', 'b', 'j', 'e', 'c', 't', '>']

def shownItems : List Value → List Text
  | [] => []
  | v :: rest => v.shown :: shownItems rest

def shownEntries : List (Key × Value) → List (Text × Text)
  | [] => []
  | (k, v) :: rest => (k.shown, v.shown) :: shownEntries rest

end

/-- A value as it stands by itself: text as it is. -/
def inMessage : Value → Text
  | .text s => s
  | v => v.shown

end Value
end QueryTemplate
