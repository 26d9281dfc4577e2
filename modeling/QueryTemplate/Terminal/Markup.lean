import QueryTemplate.Terminal.Picture
import QueryTemplate.Text.Wrap

/-! Text with style tags in square brackets, where no styles are shown. -/
namespace QueryTemplate

/-- A run of text, or a tag by what stands in its brackets. -/
inductive MarkupPiece where
  | text (t : Text)
  | tag (t : Text)
deriving DecidableEq, Repr

/-- A tag closes what is not open. -/
inductive MarkupError where
  | notOpen (name : Text)
deriving DecidableEq, Repr

namespace Markup

def beginsTag (c : Char) : Bool :=
  ('a' ≤ c && c ≤ 'z') || c == '#' || c == '/' || c == '@'

/-- The length of a tag up to the bracket that closes it. -/
def closing? : Text → Option Nat
  | [] => none
  | c :: rest =>
    if c = ']' then some 0 else if c = '[' then none else (closing? rest).map (· + 1)

/-- What stands in the brackets at the head of a text, if that is a tag. -/
def tag? : Text → Option Text
  | '[' :: c :: rest =>
    if beginsTag c then (closing? rest).map fun n => c :: rest.take n else none
  | _ => none

/-- Puts a character in front of the pieces. -/
def pushChar (c : Char) : List MarkupPiece → List MarkupPiece
  | .text t :: rest => .text (c :: t) :: rest
  | pieces => .text [c] :: pieces

/-- The pieces of a text. Backslashes before a tag stand for half as many, and an odd one makes the
tag plain text; `escapes` of them were read. -/
def pieces (escapes : Nat) (skip : Nat) : Text → List MarkupPiece
  | [] => if escapes = 0 then [] else [.text (List.replicate escapes '\\')]
  | c :: rest =>
    if 0 < skip then pieces 0 (skip - 1) rest
    else if c = '\\' then pieces (escapes + 1) 0 rest
    else
      match tag? (c :: rest) with
      | some t =>
        let after := pieces 0 (t.length + 1) rest
        let literal := List.replicate (escapes / 2) '\\'
        let front := if literal.isEmpty then [] else [MarkupPiece.text literal]
        if escapes % 2 = 1 then front ++ .text ('[' :: t ++ [']']) :: after
        else front ++ .tag t :: after
      | none =>
        (List.replicate escapes '\\').foldr pushChar (pushChar c (pieces 0 0 rest))

/-- Without the backslashes that stand before a bracket. -/
def unescape : Text → Text
  | '\\' :: '[' :: rest => '[' :: unescape rest
  | c :: rest => c :: unescape rest
  | [] => []

/-- Short names of styles. -/
def styleAliases : List (String × String) :=
  [("b", "bold"), ("i", "italic"), ("u", "underline"), ("d", "dim"), ("r", "reverse"),
    ("s", "strike"), ("c", "conceal"), ("o", "overline"), ("uu", "underline2")]

/-- The name of a style, as tags that open and close it are matched by. -/
def styleName (t : Text) : Text :=
  let name := Text.lower (Text.strip t)
  match styleAliases.lookup (String.ofList name) with
  | some long => long.toList
  | none => name

/-- A run of text as it is shown. -/
def shownText (t : Text) : Text := (Picture.replace (unescape t)).filter (!Text.isDropped ·)

/-- The text without its tags and with pictures for their names; `opened` are the styles that are
open, the last one first. -/
def plainFrom (opened : List Text) : List MarkupPiece → Except MarkupError Text
  | [] => .ok []
  | .text t :: rest => (plainFrom opened rest).map (shownText t ++ ·)
  | .tag ('/' :: t) :: rest =>
    let name := Text.strip (t.takeWhile (· != '='))
    if name.isEmpty then
      match opened with
      | _ :: opened => plainFrom opened rest
      | [] => .error (.notOpen name)
    else if opened.contains (styleName name) then plainFrom (opened.erase (styleName name)) rest
    else .error (.notOpen name)
  | .tag t :: rest => plainFrom (styleName (t.takeWhile (· != '=')) :: opened) rest

/-- The text without its tags and with pictures for their names. -/
def plain (text : Text) : Except MarkupError Text := plainFrom [] (pieces 0 0 text)

end Markup
end QueryTemplate
