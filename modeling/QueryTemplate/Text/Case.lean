import QueryTemplate.Text.Basic
import QueryTemplate.Text.CaseTable

/-! Lower and upper case of text, and letters that differ in case alone. -/
namespace QueryTemplate.Text

/-- The number a run of characters sends `n` to. -/
def CaseRuns.apply : CaseRuns → Nat → Nat
  | [], n => n
  | (first, last, step, distance) :: rest, n =>
    if n ≤ last then
      if first ≤ n ∧ (n - first) % step = 0 then ((n : Int) + distance).toNat
      else CaseRuns.apply rest n
    else CaseRuns.apply rest n

/-- The lower case letter of a character, or the character itself. -/
def lowerLetter (c : Char) : Char :=
  if c.toNat < 0x80 then c.toLower
  else if c.toNat = 0x130 then 'i'
  else Char.ofNat (lowerRuns.apply c.toNat)

/-- The lower case of a character; only a capital I with a dot needs two. -/
def lowerChar (c : Char) : Text :=
  if c.toNat = 0x130 then ['i', Char.ofNat 0x307] else [lowerLetter c]

def upperChar (c : Char) : Text :=
  if c.toNat < 0x80 then [c.toUpper]
  else match upperExpansions.lookup c.toNat with
    | some ns => ns.map Char.ofNat
    | none => [Char.ofNat (upperRuns.apply c.toNat)]

def isCased (c : Char) : Bool := Ranges.has casedRanges c.toNat

def isSkipped (c : Char) : Bool := Ranges.has skippedRanges c.toNat

/-- Is a capital sigma between these characters the last letter of a word? The characters before
it come nearest first. -/
def endsWord (before after : Text) : Bool :=
  (before.dropWhile isSkipped).head?.any isCased && !(after.dropWhile isSkipped).head?.any isCased

def lowerAfter (before : Text) : Text → Text
  | [] => []
  | c :: rest =>
    (if c = 'Σ' then [if endsWord before rest then 'ς' else 'σ'] else lowerChar c) ++
      lowerAfter (c :: before) rest

/-- Lower case, character by character; a capital sigma that ends a word becomes a final one. -/
def lower (text : Text) : Text := lowerAfter [] text

def upper (text : Text) : Text := text.flatMap upperChar

/-- Do two characters differ in case alone? Besides equal lower case letters these are letters of
one upper case. -/
def sameLetter (a b : Char) : Bool :=
  lowerLetter a == lowerLetter b ||
    sameUpper.any fun group =>
      group.contains (lowerLetter a).toNat && group.contains (lowerLetter b).toNat

/-- Does the text begin with the part, whatever the case of its letters? -/
def beginsWith : Text → Text → Bool
  | [], _ => true
  | _ :: _, [] => false
  | a :: part, b :: text => sameLetter a b && beginsWith part text

end QueryTemplate.Text
