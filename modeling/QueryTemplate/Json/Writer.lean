import QueryTemplate.Json.Basic

/-! Documents as text of the first 128 characters. -/
namespace QueryTemplate
namespace Json

/-- Numbers as text, with the names `Infinity` and `NaN`. -/
def numberStyle : NumberStyle := .data

def unicodeEscape (n : Nat) : Text := '\\' :: 'u' :: Text.hexDigits 4 n

/-- The written form of a character in a string; one beyond 16 bits takes two escapes. -/
def stringChar (c : Char) : Text :=
  let n := Text.codePoint c
  if c == '"' || c == '\\' then ['\\', c]
  else if c == '\n' then ['\\', 'n']
  else if c == '\r' then ['\\', 'r']
  else if c == '\t' then ['\\', 't']
  else if c == '\x08' then ['\\', 'b']
  else if c == '\x0c' then ['\\', 'f']
  else if 0x20 ≤ n ∧ n < 0x7f then [c]
  else if n < 0x10000 then unicodeEscape n
  else unicodeEscape (0xd800 + (n - 0x10000) / 0x400) ++
    unicodeEscape (0xdc00 + (n - 0x10000) % 0x400)

def renderString (s : String) : Text := '"' :: s.toList.flatMap stringChar ++ ['"']

def between (first : Char) (parts : List Text) (last : Char) : Text :=
  first :: [',', ' '].intercalate parts ++ [last]

mutual

/-- The document on one line, with a blank after each comma and colon. -/
def render : Json → Text
  | .null => ['n', 'u', 'l', 'l']
  | .bool true => ['t', 'r', 'u', 'e']
  | .bool false => ['f', 'a', 'l', 's', 'e']
  | .int n => intText n
  | .float x => numberStyle.write x
  | .string s => renderString s
  | .array items => between '[' (renderItems items) ']'
  | .object fields => between '\x7b' (renderFields fields) '\x7d'

def renderItems : List Json → List Text
  | [] => []
  | v :: rest => v.render :: renderItems rest

def renderFields : List (String × Json) → List Text
  | [] => []
  | (name, v) :: rest => (renderString name ++ [':', ' '] ++ v.render) :: renderFields rest

end

end Json
end QueryTemplate
