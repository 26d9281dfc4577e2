import QueryTemplate.Text.Printable
import QueryTemplate.Text.Surrogate

/-! Text between quotation marks, as messages show it. -/
namespace QueryTemplate.Text

/-- The last `width` hexadecimal digits of a number, in lower case. -/
def hexDigits : Nat → Nat → Text
  | 0, _ => []
  | width + 1, n => hexDigits width (n / 16) ++ [Nat.digitChar (n % 16)]

/-- The apostrophe, unless the text has one and no quotation mark. -/
def quotationMark (text : Text) : Char :=
  if text.contains '\'' && !text.contains '"' then '"' else '\''

/-- The shown form of a character between two `mark`s. -/
def shownChar (mark c : Char) : Text :=
  let n := codePoint c
  if c == mark || c == '\\' then ['\\', c]
  else if c == '\n' then ['\\', 'n']
  else if c == '\r' then ['\\', 'r']
  else if c == '\t' then ['\\', 't']
  else if isPrintable c then [c]
  else if n < 0x100 then '\\' :: 'x' :: hexDigits 2 n
  else if n < 0x10000 then '\\' :: 'u' :: hexDigits 4 n
  else '\\' :: 'U' :: hexDigits 8 n

/-- The text between quotation marks, with escapes for the mark itself, the backslash and all
that is not printable. -/
def quoted (text : Text) : Text :=
  let mark := quotationMark text
  mark :: text.flatMap (shownChar mark) ++ [mark]

/-- Why a text with surrogates cannot be written: it tells where the first of them stand. -/
def encodeComplaint (text : Text) : String :=
  let start := (text.takeWhile (!isStandIn ·)).length
  let found := (text.drop start).takeWhile isStandIn
  let place := match found with
    | [c] => "character '\\u" ++ String.ofList (hexDigits 4 (codePoint c)) ++
        "' in position " ++ toString start
    | _ => "characters in position " ++ toString start ++ "-" ++ toString (start + found.length - 1)
  "'utf-8' codec can't encode " ++ place ++ ": surrogates not allowed"

end QueryTemplate.Text

namespace QueryTemplate

/-- A string between quotation marks. -/
def quotedString (s : String) : String := String.ofList (Text.quoted s.toList)

/-- A list of strings in brackets, each between quotation marks. -/
def quotedList (ss : List String) : String :=
  "[" ++ ", ".intercalate (ss.map quotedString) ++ "]"

end QueryTemplate
