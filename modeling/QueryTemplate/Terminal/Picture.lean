import QueryTemplate.Terminal.PictureTable
import QueryTemplate.Text.Blank
import QueryTemplate.Text.Case

/-! Pictures in the place of their names between colons. -/
namespace QueryTemplate
namespace Picture

/-- The picture of a name in lower case. -/
def find? (name : Text) : Option Text :=
  let entry? := (pictureTable.toList.splitOnP Text.isBlank).find? fun e =>
    e.takeWhile (· != '=') == name
  if name.isEmpty then none else entry?.map fun e => e.drop (name.length + 1)

/-- What a name may end with, and the mark it puts after the picture. -/
def variants : List (Text × Char) :=
  [("-emoji".toList, '\ufe0f'), ("-text".toList, '\ufe0e')]

/-- The picture for what stands between two colons. -/
def ofName? (text : Text) : Option Text :=
  match variants.find? fun v => v.1.isSuffixOf text with
  | some (ending, mark) =>
    (find? (Text.lower (text.take (text.length - ending.length)))).map (· ++ [mark])
  | none => find? (Text.lower text)

/-- The length of a name before the colon that ends it; a blank ends none. -/
def nameLength? : Text → Option Nat
  | [] => none
  | c :: rest =>
    if c = ':' then some 0 else if Text.isBlank c then none else (nameLength? rest).map (· + 1)

/-- Puts pictures in the place of their names. A name that is unknown stays with both its colons;
`skip` characters of such a name are passed over, or left out if there is a picture for it. -/
def replaceFrom (skip : Nat) (kept : Bool) : Text → Text
  | [] => []
  | c :: rest =>
    if 0 < skip then
      if kept then c :: replaceFrom (skip - 1) kept rest else replaceFrom (skip - 1) kept rest
    else if c = ':' then
      match nameLength? rest with
      | none => c :: replaceFrom 0 true rest
      | some n =>
        match ofName? (rest.take n) with
        | some picture => picture ++ replaceFrom (n + 1) false rest
        | none => c :: replaceFrom (n + 1) true rest
    else c :: replaceFrom 0 true rest

def replace (text : Text) : Text := replaceFrom 0 true text

end Picture
end QueryTemplate
