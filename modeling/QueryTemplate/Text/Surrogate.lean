import QueryTemplate.Text.Basic

/-! Surrogates that stand alone. A text can have them, but no character is one, and no such text can
be written to a file or sent. Here a private character of the last plane stands for each of them;
texts with these private characters themselves are left out. -/
namespace QueryTemplate.Text

/-- Is a number that of a surrogate? -/
def isSurrogate (n : Nat) : Bool := decide (0xd800 ≤ n ∧ n ≤ 0xdfff)

/-- How far from the surrogates the characters are that stand for them. -/
def standInOffset : Nat := 0x100000

/-- The character with a number, or the one that stands for a surrogate. -/
def charOf (n : Nat) : Char :=
  if isSurrogate n then Char.ofNat (n + standInOffset) else Char.ofNat n

/-- Does a character stand for a surrogate? -/
def isStandIn (c : Char) : Bool := standInOffset ≤ c.toNat && isSurrogate (c.toNat - standInOffset)

/-- The number of a character, or of the surrogate that it stands for. -/
def codePoint (c : Char) : Nat := if isStandIn c then c.toNat - standInOffset else c.toNat

/-- Can a text be written? Not with a surrogate in it. -/
def isEncodable (text : Text) : Bool := text.all (!isStandIn ·)

end QueryTemplate.Text
