import QueryTemplate.Settings.Environment
import QueryTemplate.Text.Blank
import QueryTemplate.Text.Line

/-! Files that set variables, one to a line. -/
namespace QueryTemplate
namespace EnvFile

/-- A variable with its value; a name alone has none. -/
abbrev Binding := String × Option Text

def isLineEnd (c : Char) : Bool := c == '\n' || c == '\r'

/-- A blank that does not end the line. -/
def isGap (c : Char) : Bool := Text.isBlank c && !isLineEnd c

def skipGap (text : Text) : Text := text.dropWhile isGap

/-- What follows the current line. -/
def nextLine (text : Text) : Text := (text.dropWhile (!isLineEnd ·)).drop 1

/-- What follows the word `export` and a gap, if they are there. -/
def skipExport (text : Text) : Text :=
  let word := "export".toList
  if word.isPrefixOf text then
    let rest := text.drop word.length
    if rest.head?.any isGap then skipGap rest else text
  else text

/-- Reads a name: between apostrophes, or up to a blank, an equals sign or a number sign. -/
def readName : Text → Option (Text × Text)
  | '\'' :: rest =>
    let name := rest.takeWhile (· != '\'')
    match rest.drop name.length with
    | _ :: after => if name.isEmpty then none else some (name, after)
    | [] => none
  | text =>
    let stops (c : Char) : Bool := c == '=' || c == '#' || Text.isBlank c
    let name := text.takeWhile (!stops ·)
    if name.isEmpty then none else some (name, text.drop name.length)

/-- The length of a value before its closing mark. A backslash takes the next character with it, so
a mark after one does not close. -/
def closing? (mark : Char) : Text → Option Nat
  | [] => none
  | '\\' :: _ :: rest => (closing? mark rest).map (· + 2)
  | c :: rest => if c == mark then some 0 else (closing? mark rest).map (· + 1)

/-- What letters stand for after a backslash between double marks. -/
def letterEscapes : List (Char × Char) :=
  [('a', '\x07'), ('b', '\x08'), ('f', '\x0c'), ('n', '\n'), ('r', '\r'), ('t', '\t'), ('v', '\x0b')]

/-- What a character stands for after a backslash between such marks. -/
def escaped? (mark c : Char) : Option Char :=
  if c == '\\' || c == '\'' then some c
  else if mark != '"' then none
  else if c == '"' then some c
  else letterEscapes.lookup c

/-- Takes the backslash from the escapes that count between such marks. -/
def unescape (mark : Char) : Text → Text
  | [] => []
  | '\\' :: c :: rest =>
    match escaped? mark c with
    | some d => d :: unescape mark rest
    | none => '\\' :: unescape mark (c :: rest)
  | c :: rest => c :: unescape mark rest

/-- Cuts a comment: a number sign after blanks, with them. -/
def withoutComment : Text → Text
  | [] => []
  | c :: rest =>
    if Text.isBlank c && ((c :: rest).dropWhile Text.isBlank).head? == some '#' then []
    else c :: withoutComment rest

/-- Reads a value after the equals sign and the gap behind it: between marks, or the rest of the
line. The gap counts as blanks before a comment. -/
def readValue (gap text : Text) : Option (Text × Text) :=
  match text with
  | [] => some ([], [])
  | c :: rest =>
    if c == '\'' || c == '"' then
      (closing? c rest).map fun n => (unescape c (rest.take n), rest.drop (n + 1))
    else if isLineEnd c then some ([], text)
    else
      let line := text.takeWhile (!isLineEnd ·)
      some (Text.strip (withoutComment (gap ++ line)), text.drop line.length)

/-- What follows the end of the line, if nothing but a comment comes before it. -/
def readLineEnd (text : Text) : Option Text :=
  let rest := skipGap text
  let rest := if rest.head? == some '#' then rest.dropWhile (!isLineEnd ·) else rest
  match rest with
  | [] => some []
  | c :: after => if isLineEnd c then some after else none

/-- What an option has, or else the place in the text that reading got to. -/
def orAt {α : Type} (place : Text) : Option α → Except Text α
  | some a => .ok a
  | none => .error place

/-- Reads a binding or a comment and the end of its line. -/
def readBinding (text : Text) : Except Text (Option Binding × Text) := do
  let text := skipExport text
  if text.head? == some '#' then
    let rest ← orAt text (readLineEnd text)
    pure (none, rest)
  else
    let (name, rest) ← orAt text (readName text)
    let rest := skipGap rest
    match rest with
    | '=' :: rest =>
      let gap := rest.takeWhile isGap
      let rest := rest.drop gap.length
      let (value, rest) ← orAt rest (readValue gap rest)
      let rest ← orAt rest (readLineEnd rest)
      pure (some (String.ofList name, some value), rest)
    | rest =>
      let rest ← orAt rest (readLineEnd rest)
      pure (some (String.ofList name, none), rest)

/-- The bindings of a file; what is left of a line that is none is passed over. The fuel is the
number of characters. -/
def readBindings : Nat → Text → List Binding
  | 0, _ => []
  | fuel + 1, text =>
    let text := text.dropWhile Text.isBlank
    if text.isEmpty then []
    else match readBinding text with
      | .ok (some b, rest) => b :: readBindings fuel rest
      | .ok (none, rest) => readBindings fuel rest
      | .error rest => readBindings fuel (nextLine rest)

/-- Reads `${name}` or `${name:-default}` after its opening brace. -/
def readReference (text : Text) : Option ((String × Text) × Text) :=
  let name := text.takeWhile fun c => c != '\x7d' && c != ':'
  match text.drop name.length with
  | '\x7d' :: rest => some ((String.ofList name, []), rest)
  | ':' :: '-' :: rest =>
    let default := rest.takeWhile (· != '\x7d')
    match rest.drop default.length with
    | _ :: after => some ((String.ofList name, default), after)
    | [] => none
  | _ => none

/-- Puts the texts of variables in the place of references to them. The fuel is the number of
characters. -/
def expand (look : String → Option Text) : Nat → Text → Text
  | 0, text => text
  | _ + 1, [] => []
  | fuel + 1, c :: rest =>
    match c, rest with
    | '$', '\x7b' :: inner =>
      match readReference inner with
      | some ((name, default), after) => (look name).getD default ++ expand look fuel after
      | none => c :: expand look fuel rest
    | _, _ => c :: expand look fuel rest

/-- A byte order mark at the beginning is no part of the file. -/
def dropByteOrderMark : Text → Text
  | '\ufeff' :: rest => rest
  | text => text

/-- The variables of a file. A value may refer to variables set before it, or else to those of the
environment. -/
def assignments (env : Environment) (file : Text) : List (String × Option String) :=
  let text := Text.unifyLines (dropByteOrderMark file)
  (readBindings (text.length + 1) text).foldl
    (fun done (name, value) =>
      let look (n : String) : Option Text :=
        match done.lookup n with
        | some v => some (v.getD "").toList
        | none => (env.lookup n).map String.toList
      Assoc.put name (value.map fun v => String.ofList (expand look v.length v)) done)
    []

end EnvFile
end QueryTemplate
