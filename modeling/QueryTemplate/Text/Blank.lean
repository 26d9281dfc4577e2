import QueryTemplate.Text.Basic

/-! Blank characters: spaces, line ends and separators. -/
namespace QueryTemplate.Text

/-- Tab to carriage return, the four information separators and every space or line separator. -/
def isBlank (c : Char) : Bool :=
  let n := c.toNat
  decide (9 ≤ n ∧ n ≤ 13) || decide (28 ≤ n ∧ n ≤ 32) || n == 0x85 || n == 0xa0 || n == 0x1680 ||
    decide (0x2000 ≤ n ∧ n ≤ 0x200a) || n == 0x2028 || n == 0x2029 || n == 0x202f ||
    n == 0x205f || n == 0x3000

/-- Without the blank characters at both ends. -/
def strip (text : Text) : Text :=
  ((text.dropWhile isBlank).reverse.dropWhile isBlank).reverse

/-- The blanks that may stand around a number: the information separators are none. -/
def isMargin (c : Char) : Bool := isBlank c && !(28 ≤ c.toNat && c.toNat ≤ 31)

/-- Without the margins of a number. -/
def trim (text : Text) : Text := ((text.dropWhile isMargin).reverse.dropWhile isMargin).reverse

end QueryTemplate.Text
