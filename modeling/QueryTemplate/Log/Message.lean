import QueryTemplate.Number.Places
import QueryTemplate.Value.Shown

/-! Messages with directives that arguments take the place of. -/
namespace QueryTemplate

/-- Why a message cannot be filled in. -/
inductive MessageError where
  | tooFewArguments
  | tooManyArguments
  /-- A directive names a key, and the arguments are no mapping. -/
  | noMapping
  | missingKey (key : Text)
  | unclosedKey
  /-- The message ends within a directive. -/
  | incomplete
  | unsupported (conversion : Char) (index : Nat)
  /-- A width or a precision is to be taken from an argument that is no integer. -/
  | measure
  /-- A width or a precision is beyond what a field can have. -/
  | measureTooLarge (isWidth : Bool)
  | noNumber (conversion : Char) (fullTypeName : String)
  | noInteger (conversion : Char) (fullTypeName : String)
  | noFloat (fullTypeName : String)
  | tooLarge
  | infinite
  | notANumber
  | noCharacter
  | characterRange
deriving DecidableEq, Repr

namespace MessageError

def hexText (n : Nat) : String := String.ofList (Nat.toDigits 16 n)

def message : MessageError → String
  | .tooFewArguments => "not enough arguments for format string"
  | .tooManyArguments => "not all arguments converted during string formatting"
  | .noMapping => "format requires a mapping"
  | .missingKey key => String.ofList key
  | .unclosedKey => "incomplete format key"
  | .incomplete => "incomplete format"
  | .unsupported c index =>
    let shown := if 31 ≤ c.toNat ∧ c.toNat ≤ 126 then c else '?'
    "unsupported format character '" ++ shown.toString ++ "' (0x" ++ hexText c.toNat ++
      ") at index " ++ toString index
  | .measure => "* wants int"
  | .measureTooLarge isWidth => (if isWidth then "width" else "precision") ++ " too big"
  | .noNumber c name =>
    "%" ++ c.toString ++ " format: a real number is required, not " ++ name
  | .noInteger c name => "%" ++ c.toString ++ " format: an integer is required, not " ++ name
  | .noFloat name => "must be real number, not " ++ name
  | .tooLarge => "int too large to convert to float"
  | .infinite => "cannot convert float infinity to integer"
  | .notANumber => "cannot convert float NaN to integer"
  | .noCharacter => "%c requires int or char"
  | .characterRange => "%c arg not in range(0x110000)"

end MessageError

/-- A width or a precision. -/
inductive Measure where
  | given (n : Nat)
  /-- The next argument says. -/
  | argument
deriving DecidableEq, Repr

/-- The key a directive names, if it names one. -/
inductive KeyPart where
  | absent
  | unclosed
  | named (key : Text)
deriving DecidableEq, Repr

/-- What stands after a percent sign. -/
structure Directive where
  key : KeyPart
  flags : Text
  width : Option Measure
  precision : Option Measure
  /-- The letter at its end, unless the message ends before it. -/
  conversion : Option Char
deriving DecidableEq, Repr

/-- A message in pieces. A directive knows the index of its last character. -/
inductive MessagePiece where
  | char (c : Char)
  | directive (d : Directive) (index : Nat)
deriving DecidableEq, Repr

namespace Directive

def isFlag (c : Char) : Bool := ['-', '+', ' ', '#', '0'].contains c

/-- The length of a key, whose brackets are balanced, up to the bracket that closes it. -/
def keyLength? (depth : Nat) : Text → Option Nat
  | [] => none
  | c :: rest =>
    if c == ')' then if depth = 0 then some 0 else (keyLength? (depth - 1) rest).map (· + 1)
    else (keyLength? (if c == '(' then depth + 1 else depth) rest).map (· + 1)

def readKey (text : Text) : KeyPart × Text :=
  match text with
  | '(' :: rest =>
    match keyLength? 0 rest with
    | some n => (.named (rest.take n), rest.drop (n + 1))
    | none => (.unclosed, [])
  | _ => (.absent, text)

def readMeasure (text : Text) : Option Measure × Text :=
  match text with
  | '*' :: rest => (some .argument, rest)
  | _ =>
    let digits := text.takeWhile Char.isDigit
    (if digits.isEmpty then none
      else some (.given (digits.foldl (fun n d => 10 * n + (d.toNat - '0'.toNat)) 0)),
      text.drop digits.length)

def readPrecision (text : Text) : Option Measure × Text :=
  match text with
  | '.' :: rest =>
    let (measure, rest) := readMeasure rest
    (some (measure.getD (.given 0)), rest)
  | _ => (none, text)

/-- One letter that says the size of an integer says nothing here. -/
def dropSize (text : Text) : Text :=
  match text with
  | c :: rest => if ['h', 'l', 'L'].contains c then rest else text
  | [] => []

/-- The directive at the head of a text, and how many characters it takes. -/
def read (text : Text) : Directive × Nat :=
  let (key, rest) := readKey text
  let flags := rest.takeWhile isFlag
  let (width, rest) := readMeasure (rest.drop flags.length)
  let (precision, rest) := readPrecision rest
  let rest := dropSize rest
  (⟨key, flags, width, precision, rest.head?⟩, text.length - (rest.length - 1))

end Directive

/-- The pieces of a message from an index on. Two percent signs stand for one. -/
def messagePieces (index : Nat) : Text → List MessagePiece
  | [] => []
  | '%' :: '%' :: rest => .char '%' :: messagePieces (index + 2) rest
  | '%' :: rest =>
    let (d, n) := Directive.read rest
    .directive d (index + n) :: messagePieces (index + 1 + n) (rest.drop n)
  | c :: rest => .char c :: messagePieces (index + 1) rest
termination_by text => text.length
decreasing_by all_goals (simp only [List.length_cons, List.length_drop]; omega)

/-- The arguments that are left, and the entries of the mapping they are, if they are one. -/
structure MessageArguments where
  left : List Value
  entries : Option (List (Key × Value)) := none

namespace MessageArguments

/-- One mapping that has entries is taken for a mapping of all arguments. -/
def ofList : List Value → MessageArguments
  | [.map name (e :: entries)] => ⟨[.map name (e :: entries)], some (e :: entries)⟩
  | items => ⟨items, none⟩

def next (a : MessageArguments) : Except MessageError (Value × MessageArguments) :=
  match a.left with
  | v :: rest => .ok (v, { a with left := rest })
  | [] => .error .tooFewArguments

/-- The value under a key, as the only argument that is left. -/
def atKey (a : MessageArguments) : KeyPart → Except MessageError MessageArguments
  | .absent => .ok a
  | part =>
    match a.entries, part with
    | none, _ => .error .noMapping
    | some entries, .named key =>
      match entries.find? fun e => e.1.same (.text key) with
      | some (_, v) => .ok { a with left := [v] }
      | none => .error (.missingKey key)
    | some _, _ => .error .unclosedKey

/-- The greatest width and precision of a field. -/
def largest : Nat := Nat.pow 2 31 - 1

/-- A measure, negative only where an argument says so. -/
def measure (a : MessageArguments) (isWidth : Bool) :
    Option Measure → Except MessageError (Option Int × MessageArguments)
  | none => .ok (none, a)
  | some (.given n) =>
    if largest < n then .error (.measureTooLarge isWidth) else .ok (some n, a)
  | some .argument => do
    let (v, a) ← a.next
    match v with
    | .int n =>
      if largest < n.natAbs then .error (.measureTooLarge isWidth) else .ok (some n, a)
    | .bool b => .ok (some (if b then 1 else 0), a)
    | _ => .error .measure

end MessageArguments

/-- A converted value: what kind of text it is and the text. -/
inductive Converted where
  /-- Cut to the precision. -/
  | words (text : Text)
  | character (text : Text)
  /-- A sign may go in front and zeros after the sign. -/
  | number (text : Text)
deriving DecidableEq, Repr

namespace Directive

def asciiChar (c : Char) : Text :=
  let n := c.toNat
  if n < 0x80 then [c]
  else if n < 0x100 then '\\' :: 'x' :: Text.hexDigits 2 n
  else if n < 0x10000 then '\\' :: 'u' :: Text.hexDigits 4 n
  else '\\' :: 'U' :: Text.hexDigits 8 n

/-- The whole number that a number has before its point. -/
def wholeOf : Value → Option (Except MessageError Int)
  | .int n => some (.ok n)
  | .bool b => some (.ok (if b then 1 else 0))
  | .float x =>
    some <|
      if x.isNaN then .error .notANumber
      else if !x.isFinite then .error .infinite
      else
        let n := x.quotient.1 / x.quotient.2
        .ok (if x.negative then -(n : Int) else n)
  | _ => none

def floatOf : Value → Except MessageError Binary64
  | .float x => .ok x
  | .bool b => .ok (.ofQuotient false (if b then 1 else 0) 1)
  | .int n =>
    let x := Binary64.ofQuotient (decide (n < 0)) n.natAbs 1
    if x.isFinite then .ok x else .error .tooLarge
  | v => .error (.noFloat v.fullTypeName)

/-- An integer to a base, with at least as many digits as the precision says. -/
def integerText (base : Nat) (mark : Text) (precision : Nat) (n : Int) : Text :=
  let digits := Nat.toDigits base n.natAbs
  (if n < 0 then ['-'] else []) ++ mark ++
    NumberStyle.zeros (precision - digits.length) ++ digits

def upperAscii (text : Text) : Text := text.map Char.toUpper

def convertInteger (d : Directive) (c : Char) (precision : Nat) (v : Value) :
    Except MessageError Converted :=
  let marked := d.flags.contains '#'
  let inDecimals : Except MessageError Converted :=
    match wholeOf v with
    | some n => n.map fun n => .number (integerText 10 [] precision n)
    | none => .error (.noNumber c v.fullTypeName)
  let toBase (base : Nat) (letter : Char) (change : Text → Text) : Except MessageError Converted :=
    match v, wholeOf v with
    | .float _, _ | _, none => .error (.noInteger c v.fullTypeName)
    | _, some n => n.map fun n =>
      .number (change (integerText base (if marked then ['0', letter] else []) precision n))
  match c with
  | 'o' => toBase 8 'o' id
  | 'x' => toBase 16 'x' id
  | 'X' => toBase 16 'x' upperAscii
  | _ => inDecimals

def convertFloat (d : Directive) (c : Char) (precision : Nat) (v : Value) :
    Except MessageError Converted := do
  let x ← floatOf v
  let form : FloatForm := match c.toLower with
    | 'f' => .fixed
    | 'e' => .exponential
    | _ => .general
  let text := form.write (d.flags.contains '#') precision x
  pure (.number (if c.isUpper then upperAscii text else text))

def convertCharacter : Value → Except MessageError Converted
  | .text [c] => .ok (.character [c])
  | .int n =>
    if 0 ≤ n ∧ n < 0x110000 then .ok (.character [Text.charOf n.toNat]) else .error .characterRange
  | .bool b => .ok (.character [Char.ofNat (if b then 1 else 0)])
  | _ => .error .noCharacter

/-- Converts a value as the letter at the end says. -/
def convert (d : Directive) (c : Char) (index : Nat) (precision : Option Nat) (v : Value) :
    Except MessageError Converted :=
  if c == 's' then .ok (.words v.inMessage)
  else if c == 'r' then .ok (.words v.shown)
  else if c == 'a' then .ok (.words (v.shown.flatMap asciiChar))
  else if c == 'c' then convertCharacter v
  else if ['d', 'i', 'u', 'o', 'x', 'X'].contains c then
    d.convertInteger c (precision.getD 0) v
  else if ['e', 'E', 'f', 'F', 'g', 'G'].contains c then d.convertFloat c (precision.getD 6) v
  else .error (.unsupported c index)

def blanks (n : Nat) : Text := List.replicate n ' '

/-- Fills a field: blanks go to the left unless the flags say otherwise, zeros after the sign and
the mark of a base. -/
def fill (d : Directive) (c : Char) (left : Bool) (width : Nat) (precision : Option Nat)
    (converted : Converted) : Text :=
  let (zeros, sign, body) := match converted with
    | .words text => (false, [], match precision with | some n => text.take n | none => text)
    | .character text => (false, [], text)
    | .number ('-' :: text) => (d.flags.contains '0', ['-'], text)
    | .number text =>
      (d.flags.contains '0',
        if d.flags.contains '+' then ['+'] else if d.flags.contains ' ' then [' '] else [], text)
  let isMarked := d.flags.contains '#' && ['o', 'x', 'X'].contains c
  let (mark, body) := if isMarked then body.splitAt 2 else ([], body)
  let front := sign ++ mark
  let gap := width - (front.length + body.length)
  if left then front ++ body ++ blanks gap
  else if zeros then front ++ NumberStyle.zeros gap ++ body
  else blanks gap ++ front ++ body

/-- The text in place of a directive, and the arguments that are left. -/
def apply (d : Directive) (index : Nat) (a : MessageArguments) :
    Except MessageError (Text × MessageArguments) := do
  let a ← a.atKey d.key
  let (width, a) ← a.measure true d.width
  let (precision, a) ← a.measure false d.precision
  match d.conversion with
  | none => .error .incomplete
  | some c => do
    let (v, a) ← a.next
    let precision := precision.map Int.toNat
    let converted ← d.convert c index precision v
    let left := d.flags.contains '-' || width.any (· < 0)
    pure (d.fill c left ((width.map Int.natAbs).getD 0) precision converted, a)

end Directive

/-- Fills in pieces. Arguments that are left over are an error, but a mapping need not be used. -/
def fillPieces : List MessagePiece → MessageArguments → Except MessageError Text
  | [], a =>
    if a.left.isEmpty || a.entries.isSome then .ok [] else .error .tooManyArguments
  | .char c :: rest, a => (fillPieces rest a).map (c :: ·)
  | .directive d index :: rest, a => do
    let (text, a) ← d.apply index a
    (fillPieces rest a).map (text ++ ·)

/-- The message with its arguments; without any it stays as it is. -/
def fillMessage (message : Text) (arguments : List Value) : Except MessageError Text :=
  if arguments.isEmpty then .ok message
  else fillPieces (messagePieces 0 message) (.ofList arguments)

end QueryTemplate
