import QueryTemplate.Json.Basic
import QueryTemplate.Settings.Basic
import QueryTemplate.Text.Blank

/-! Reading the value of one field from text or data. -/
namespace QueryTemplate
namespace Field

def refuse {α : Type} (kind : String) : Except (List Issue) α := .error [⟨[], kind⟩]

/-- What is found wrong with a part of a value, as found in the value. -/
def within {α : Type} (step : Place) : Except (List Issue) α → Except (List Issue) α
  | .ok a => .ok a
  | .error issues => .error (issues.map fun i => ⟨step :: i.place, i.kind⟩)

/-- Both parts of a value, or all that is wrong with them. -/
def both {α β : Type} : Except (List Issue) α → Except (List Issue) β → Except (List Issue) (α × β)
  | .ok a, .ok b => .ok (a, b)
  | .ok _, .error issues => .error issues
  | .error issues, .ok _ => .error issues
  | .error issues, .error more => .error (issues ++ more)

/-- A text, which can be written. -/
def string : Json → Except (List Issue) String
  | .string s => if Text.isEncodable s.toList then .ok s else refuse "string_unicode"
  | _ => refuse "string_type"

def lowerAscii (s : String) : String := s.map Char.toLower

def boolWords : List (String × Bool) :=
  [("1", true), ("true", true), ("t", true), ("yes", true), ("y", true), ("on", true),
    ("0", false), ("false", false), ("f", false), ("no", false), ("n", false), ("off", false)]

def boolOfInt (n : Int) : Except (List Issue) Bool :=
  if n = 0 then .ok false else if n = 1 then .ok true else refuse "bool_parsing"

/-- The integers from here on are too great for a word of 64 bits. -/
def wordEnd : Int := Nat.pow 2 63

/-- Does an integer fit into a word of 64 bits? -/
def fitsWord (n : Int) : Bool := decide (-wordEnd ≤ n ∧ n < wordEnd)

/-- Does an integer that was a floating-point number fit into a word? The least word does not
count. -/
def fitsWordStrictly (n : Int) : Bool := fitsWord n && n != -wordEnd

/-- Truth values as words in any case, without blanks, or as the numbers 0 and 1. -/
def bool : Json → Except (List Issue) Bool
  | .bool b => .ok b
  | .string s =>
    match boolWords.lookup (lowerAscii s) with
    | some b => .ok b
    | none => refuse "bool_parsing"
  | .int n => if fitsWord n then boolOfInt n else refuse "bool_type"
  | .float x =>
    match x.integer? with
    | some n => if fitsWordStrictly n then boolOfInt n else refuse "bool_type"
    | none => refuse "bool_type"
  | _ => refuse "bool_type"

/-- The zeros in front, with low lines among them, go; one zero stays where nothing but a fraction
follows. -/
def dropLeadingZeros (text : Text) : Text :=
  let rest := text.dropWhile fun c => c == '0' || c == '_'
  let front := text.take (text.length - rest.length)
  match text, rest with
  | '0' :: _, c :: _ => if c.isDigit then rest else front.drop (front.length - 1) ++ rest
  | '0' :: _, [] => front.drop (front.length - 1)
  | _, _ => text

/-- Without a point and one zero or more, but nothing else, after it. -/
def dropZeroFraction (text : Text) : Text :=
  let whole := text.takeWhile (· != '.')
  match text.drop whole.length with
  | _ :: fraction => if !fraction.isEmpty && fraction.all (· == '0') then whole else text
  | [] => text

/-- Without low lines, where each stands alone and none at an end. -/
def dropLowLines (text : Text) : Text :=
  if text.head? == some '_' || text.getLast? == some '_' || Text.occursIn ['_', '_'] text then text
  else text.filter (· != '_')

/-- A number in digits, the first of which is zero only for zero itself. -/
def plainNumber? (digits : Text) : Option Nat :=
  if !digits.isEmpty && digits.all Char.isDigit && (digits.head? != some '0' || digits == ['0'])
  then some (digits.foldl (fun n d => 10 * n + (d.toNat - '0'.toNat)) 0)
  else none

/-- An integer in decimal digits, which may have a sign, blanks around it, low lines between its
digits and a fraction of zeros. Zeros in front are let go only where there is no minus. -/
def integer? (text : Text) : Option Int :=
  let clean (text : Text) : Text := dropLowLines (dropZeroFraction text)
  match Text.trim text with
  | '-' :: rest => (plainNumber? ((clean ('-' :: rest)).drop 1)).map fun n => -(n : Int)
  | '+' :: rest => (plainNumber? (clean (dropLeadingZeros rest))).map Int.ofNat
  | text => (plainNumber? (clean (dropLeadingZeros text))).map Int.ofNat

def integer : Json → Except (List Issue) Int
  | .int n => .ok n
  | .bool b => .ok (if b then 1 else 0)
  | .string s =>
    match integer? s.toList with
    | some n => .ok n
    | none => refuse "int_parsing"
  | .float x =>
    if !x.isFinite then refuse "finite_number"
    else match x.integer? with
      | some n => if fitsWordStrictly n then .ok n else refuse "int_parsing_size"
      | none => refuse "int_from_float"
  | _ => refuse "int_type"

def stringsFrom (i : Nat) : List Json → Except (List Issue) (List String)
  | [] => .ok []
  | v :: rest =>
    (both (within (.item i) (string v)) (stringsFrom (i + 1) rest)).map fun r => r.1 :: r.2

def strings : Json → Except (List Issue) (List String)
  | .array items => stringsFrom 0 items
  | _ => refuse "list_type"

end Field
end QueryTemplate
