import QueryTemplate.Json.Basic
import QueryTemplate.Text.Surrogate

/-! Reading documents, with the place and the reason where reading stops. -/
namespace QueryTemplate
namespace Json

/-- Why a text is no document. -/
inductive Complaint where
  | value
  | propertyName
  | colon
  | comma
  | unterminated
  | controlCharacter
  | badEscape
  | badUnicodeEscape
  | extraData
  | byteOrderMark
deriving DecidableEq, Repr

def Complaint.message : Complaint → String
  | .value => "Expecting value"
  | .propertyName => "Expecting property name enclosed in double quotes"
  | .colon => "Expecting ':' delimiter"
  | .comma => "Expecting ',' delimiter"
  | .unterminated => "Unterminated string starting at"
  | .controlCharacter => "Invalid control character at"
  | .badEscape => "Invalid \\escape"
  | .badUnicodeEscape => "Invalid \\uXXXX escape"
  | .extraData => "Extra data"
  | .byteOrderMark => "Unexpected UTF-8 BOM (decode using utf-8-sig)"

/-- A complaint, and how many characters were left where it was made. Every reader below takes
from the front of a text and leaves the rest. -/
structure Stop where
  complaint : Complaint
  remaining : Nat
deriving DecidableEq, Repr

def isSpace (c : Char) : Bool := c == ' ' || c == '\t' || c == '\n' || c == '\r'

def skipSpace (text : Text) : Text := text.dropWhile isSpace

def hexValue? (c : Char) : Option Nat :=
  if c.isDigit then some (c.toNat - '0'.toNat)
  else if 'a' ≤ c ∧ c ≤ 'f' then some (c.toNat - 'a'.toNat + 10)
  else if 'A' ≤ c ∧ c ≤ 'F' then some (c.toNat - 'A'.toNat + 10)
  else none

def hexValue4? (a b c d : Char) : Option Nat := do
  let a ← hexValue? a
  let b ← hexValue? b
  let c ← hexValue? c
  let d ← hexValue? d
  pure (((a * 16 + b) * 16 + c) * 16 + d)

def isHighSurrogate (n : Nat) : Bool := decide (0xd800 ≤ n ∧ n ≤ 0xdbff)

def isLowSurrogate (n : Nat) : Bool := decide (0xdc00 ≤ n ∧ n ≤ 0xdfff)

/-- The character of two surrogates. -/
def joinSurrogates (high low : Nat) : Char :=
  Char.ofNat (0x10000 + (high - 0xd800) * 0x400 + (low - 0xdc00))

/-- The character that a one-letter escape stands for. -/
def escaped? (c : Char) : Option Char :=
  if c == '"' || c == '\\' || c == '/' then some c
  else if c == 'b' then some '\x08'
  else if c == 'f' then some '\x0c'
  else if c == 'n' then some '\n'
  else if c == 'r' then some '\r'
  else if c == 't' then some '\t'
  else none

/-- The character of an escape by number, given what follows the letter `u`: four digits, which
are never the last characters of the text, and another escape after them if they are the first
half of a pair. -/
def readUnicode (text : Text) : Except Stop (Char × Text) :=
  let bad (remaining : Nat) : Except Stop (Char × Text) := .error ⟨.badUnicodeEscape, remaining⟩
  match text with
  | a :: b :: c :: d :: rest =>
    if rest.isEmpty then bad (text.length + 1)
    else match hexValue4? a b c d with
      | none => bad (text.length + 1)
      | some n =>
        match isHighSurrogate n, rest with
        | true, '\\' :: 'u' :: e :: f :: g :: h :: after =>
          if after.isEmpty then .ok (Text.charOf n, rest)
          else match hexValue4? e f g h with
            | none => bad (rest.length - 1)
            | some low =>
              if isLowSurrogate low then .ok (joinSurrogates n low, after)
              else .ok (Text.charOf n, rest)
        | _, _ => .ok (Text.charOf n, rest)
  | _ => bad (text.length + 1)

/-- Reads a string after its opening quotation mark, which `opening` characters follow. The fuel is
the number of characters. -/
def readChars (opening : Nat) : Nat → Text → Except Stop (Text × Text)
  | _, [] => .error ⟨.unterminated, opening⟩
  | 0, _ :: _ => .error ⟨.unterminated, opening⟩
  | fuel + 1, c :: rest =>
    if c == '"' then .ok ([], rest)
    else if c == '\\' then
      match rest with
      | [] => .error ⟨.unterminated, opening⟩
      | 'u' :: rest => do
        let (d, rest) ← readUnicode rest
        let (s, rest) ← readChars opening fuel rest
        pure (d :: s, rest)
      | e :: rest =>
        match escaped? e with
        | none => .error ⟨.badEscape, rest.length + 2⟩
        | some d => do
          let (s, rest) ← readChars opening fuel rest
          pure (d :: s, rest)
    else if c.toNat < 0x20 then .error ⟨.controlCharacter, rest.length + 1⟩
    else do
      let (s, rest) ← readChars opening fuel rest
      pure (c :: s, rest)

/-- A string, given what follows its opening quotation mark. -/
def readString (text : Text) : Except Stop (String × Text) := do
  let (s, rest) ← readChars (text.length + 1) text.length text
  pure (String.ofList s, rest)

def digitsValue (digits : Text) : Nat :=
  digits.foldl (fun n d => 10 * n + (d.toNat - '0'.toNat)) 0

/-- The digits after a point at the head of a text, if there are any. -/
def readFraction : Text → Text × Text
  | '.' :: rest =>
    if rest.head?.any Char.isDigit then (rest.takeWhile Char.isDigit, rest.dropWhile Char.isDigit)
    else ([], '.' :: rest)
  | text => ([], text)

/-- The exponent at the head of a text, if there is one. -/
def readExponent (text : Text) : Option (Int × Text) :=
  match text with
  | e :: rest =>
    if e == 'e' || e == 'E' then
      let (negative, digits) := match rest with
        | '-' :: r => (true, r)
        | '+' :: r => (false, r)
        | r => (false, r)
      if digits.head?.any Char.isDigit then
        let n : Int := digitsValue (digits.takeWhile Char.isDigit)
        some (if negative then -n else n, digits.dropWhile Char.isDigit)
      else none
    else none
  | [] => none

/-- A number: an integer unless it has a fraction or an exponent. -/
def readNumber (text : Text) : Option (Json × Text) :=
  let (negative, body) := match text with
    | '-' :: rest => (true, rest)
    | rest => (false, rest)
  match body with
  | [] => none
  | c :: rest =>
    if !c.isDigit then none
    else
      let whole := if c == '0' then [c] else c :: rest.takeWhile Char.isDigit
      let rest := if c == '0' then rest else rest.dropWhile Char.isDigit
      let (fraction, rest) := readFraction rest
      match readExponent rest with
      | none =>
        if fraction.isEmpty then
          let n : Int := digitsValue whole
          some (.int (if negative then -n else n), rest)
        else some (.float (.ofDecimal negative (digitsValue (whole ++ fraction))
          (-(fraction.length : Int))), rest)
      | some (e, rest) =>
        some (.float (.ofDecimal negative (digitsValue (whole ++ fraction))
          (e - fraction.length)), rest)

/-- A word that stands for a value, at the head of a text. -/
def readWord (text : Text) : Option (Json × Text) :=
  let words : List (String × Json) :=
    [("null", .null), ("true", .bool true), ("false", .bool false), ("NaN", .float .nan),
      ("Infinity", .float (.infinity false)), ("-Infinity", .float (.infinity true))]
  words.findSome? fun (word, value) =>
    if word.toList.isPrefixOf text then some (value, text.drop word.length) else none

mutual

/-- Reads one value. The fuel bounds the depth. -/
def readValue : Nat → Text → Except Stop (Json × Text)
  | 0, text => .error ⟨.value, text.length⟩
  | fuel + 1, text =>
    match text with
    | '"' :: rest => do
      let (s, rest) ← readString rest
      pure (.string s, rest)
    | '[' :: rest =>
      match skipSpace rest with
      | ']' :: rest => .ok (.array [], rest)
      | rest => do
        let (items, rest) ← readItems fuel rest
        pure (.array items, rest)
    | '\x7b' :: rest =>
      match skipSpace rest with
      | '\x7d' :: rest => .ok (.object [], rest)
      | rest => do
        let (fields, rest) ← readFields fuel [] rest
        pure (.object fields, rest)
    | _ =>
      match readWord text with
      | some r => .ok r
      | none =>
        match readNumber text with
        | some r => .ok r
        | none => .error ⟨.value, text.length⟩

/-- Reads the items of an array up to its end. -/
def readItems : Nat → Text → Except Stop (List Json × Text)
  | 0, text => .error ⟨.value, text.length⟩
  | fuel + 1, text => do
    let (v, rest) ← readValue fuel text
    match skipSpace rest with
    | ']' :: rest => pure ([v], rest)
    | ',' :: rest => do
      let (vs, rest) ← readItems fuel (skipSpace rest)
      pure (v :: vs, rest)
    | rest => .error ⟨.comma, rest.length⟩

/-- Reads the fields of an object up to its end, after those already read. -/
def readFields : Nat → List (String × Json) → Text → Except Stop (List (String × Json) × Text)
  | 0, _, text => .error ⟨.value, text.length⟩
  | fuel + 1, before, text =>
    match text with
    | '"' :: rest => do
      let (name, rest) ← readString rest
      match skipSpace rest with
      | ':' :: rest => do
        let (v, rest) ← readValue fuel (skipSpace rest)
        let fields := Assoc.put name v before
        match skipSpace rest with
        | '\x7d' :: rest => pure (fields, rest)
        | ',' :: rest => readFields fuel fields (skipSpace rest)
        | rest => .error ⟨.comma, rest.length⟩
      | rest => .error ⟨.colon, rest.length⟩
    | _ => .error ⟨.propertyName, text.length⟩

end

/-- A complaint and the offset it is made at. -/
structure ReadError where
  complaint : Complaint
  offset : Nat
deriving DecidableEq, Repr

/-- Reads a text that is one document and blanks around it. -/
def readDocument (text : Text) : Except ReadError Json :=
  let place (s : Stop) : ReadError := ⟨s.complaint, text.length - s.remaining⟩
  match readValue (text.length + 1) (skipSpace text) with
  | .error stop => .error (place stop)
  | .ok (value, rest) =>
    match skipSpace rest with
    | [] => .ok value
    | rest => .error (place ⟨.extraData, rest.length⟩)

def byteOrderMark : Char := '\ufeff'

/-- Reads a document that does not begin with a byte order mark. -/
def read (text : Text) : Except ReadError Json :=
  if text.head? = some byteOrderMark then .error ⟨.byteOrderMark, 0⟩ else readDocument text

/-- Reads a document that was sent as bytes: a byte order mark is no part of it. -/
def readSent (text : Text) : Except ReadError Json :=
  if text.head? = some byteOrderMark then readDocument (text.drop 1) else readDocument text

end Json
end QueryTemplate
