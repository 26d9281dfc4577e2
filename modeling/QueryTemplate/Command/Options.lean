import QueryTemplate.Command.Likeness
import QueryTemplate.Terminal.Control
import QueryTemplate.Text.Quoted

/-! Reading the options and arguments of a command line. -/
namespace QueryTemplate

/-- What is wrong with a command line. -/
inductive UsageError where
  | noSuchOption (name : String) (similar : List String)
  | valueRequired (option : String)
  | valueNotTaken (option : String)
  /-- The value of the option with these names is refused. -/
  | invalidValue (names : String) (reason : String)
  | unexpected (arguments : List String)
  | noSuchCommand (name : String) (similar : List String)
  | missingCommand
deriving DecidableEq, Repr

namespace UsageError

def sortStrings (ss : List String) : List String := ss.mergeSort fun a b => decide (a ≤ b)

def wording : UsageError → String
  | .noSuchOption name [] => "No such option: " ++ name
  | .noSuchOption name [similar] => "No such option: " ++ name ++ " Did you mean " ++ similar ++ "?"
  | .noSuchOption name similar =>
    "No such option: " ++ name ++ " (Possible options: " ++
      ", ".intercalate (sortStrings similar) ++ ")"
  | .valueRequired option => "Option " ++ quotedString option ++ " requires an argument."
  | .valueNotTaken option => "Option " ++ quotedString option ++ " does not take a value."
  | .invalidValue names reason => "Invalid value for " ++ names ++ ": " ++ reason
  | .unexpected [argument] => "Got unexpected extra argument (" ++ argument ++ ")"
  | .unexpected arguments =>
    "Got unexpected extra arguments (" ++ " ".intercalate arguments ++ ")"
  | .noSuchCommand name [] => "No such command " ++ quotedString name ++ "."
  | .noSuchCommand name [similar] =>
    "No such command " ++ quotedString name ++ ". Did you mean " ++ quotedString similar ++ "?"
  | .noSuchCommand name similar =>
    "No such command " ++ quotedString name ++ ". (Did you mean one of: " ++
      ", ".intercalate ((sortStrings similar).map quotedString) ++ "?)"
  | .missingCommand => "Missing command."

/-- The wording as it is written to no terminal. -/
def message (e : UsageError) : String := String.ofList (Control.strip e.wording.toList)

end UsageError

/-- An option of a command. -/
structure OptionSpec where
  /-- The long name, without its two dashes. -/
  name : String
  short : Option Char := none
  takesValue : Bool := true
deriving DecidableEq, Repr

namespace OptionSpec

def long (o : OptionSpec) : String := "--" ++ o.name

/-- The option's names as messages show them. -/
def shownNames (o : OptionSpec) : String :=
  match o.short with
  | some c => "'-" ++ c.toString ++ "' / '" ++ o.long ++ "'"
  | none => "'" ++ o.long ++ "'"

end OptionSpec

/-- A command line that was read: options under their long names with their values, in order, and
what is no option. -/
structure CommandLine where
  options : List (String × String) := []
  arguments : List String := []
deriving DecidableEq, Repr

namespace CommandLine

def values (c : CommandLine) (name : String) : List String :=
  c.options.filterMap fun o => if o.1 = name then some o.2 else none

/-- The value of an option; the last one counts. -/
def value? (c : CommandLine) (name : String) : Option String := (c.values name).getLast?

def has (c : CommandLine) (name : String) : Bool := c.options.any (·.1 == name)

/-- One word with options: the options in it, and whether the last one takes the next word. -/
abbrev OptionWord := List (String × String) × Option OptionSpec

/-- The options of a word of single letters. A letter that takes a value takes the rest of the
word. -/
def readLetters (specs : List OptionSpec) : Text → Except UsageError OptionWord
  | [] => .ok ([], none)
  | c :: rest =>
    match specs.find? fun o => o.short == some c with
    | none => .error (.noSuchOption ("-" ++ c.toString) [])
    | some o =>
      if !o.takesValue then
        (readLetters specs rest).map fun w => ((o.name, "") :: w.1, w.2)
      else if rest.isEmpty then .ok ([], some o)
      else .ok ([(o.name, String.ofList rest)], none)

/-- A word with a long name, and a value after an equals sign if there is one. -/
def readLong (specs : List OptionSpec) (word : Text) : Except UsageError OptionWord :=
  let name := word.takeWhile (· != '=')
  let value? := match word.drop name.length with
    | _ :: value => some (String.ofList value)
    | [] => none
  let name := String.ofList name
  match specs.find? fun o => o.long == name with
  | none => .error (.noSuchOption name (Likeness.similar name (specs.map OptionSpec.long)))
  | some o =>
    match o.takesValue, value? with
    | true, some value => .ok ([(o.name, value)], none)
    | true, none => .ok ([], some o)
    | false, some _ => .error (.valueNotTaken name)
    | false, none => .ok ([(o.name, "")], none)

def readWord (specs : List OptionSpec) : Text → Except UsageError OptionWord
  | '-' :: '-' :: rest => readLong specs ('-' :: '-' :: rest)
  | word => readLetters specs (word.drop 1)

/-- The name by which a word asks for the option that takes the next word. -/
def askedName (word : String) (o : OptionSpec) : String :=
  if word.startsWith "--" then o.long
  else match o.short with
    | some c => "-" ++ c.toString
    | none => o.long

/-- A word that options are read from: a dash and something else. -/
def isOptionWord : Text → Bool
  | '-' :: _ :: _ => true
  | _ => false

/-- Reads words. Two dashes end the options; where options and arguments do not mix, so does the
first argument. -/
def readWords (specs : List OptionSpec) (mixed : Bool) : List String → Except UsageError CommandLine
  | [] => .ok {}
  | word :: rest =>
    if word = "--" then .ok { arguments := rest }
    else if isOptionWord word.toList then
      match readWord specs word.toList with
      | .error e => .error e
      | .ok (found, none) =>
        (readWords specs mixed rest).map fun c => { c with options := found ++ c.options }
      | .ok (found, some o) =>
        match rest with
        | value :: rest =>
          (readWords specs mixed rest).map fun c =>
            { c with options := found ++ (o.name, value) :: c.options }
        | [] => .error (.valueRequired (askedName word o))
    else if mixed then
      (readWords specs mixed rest).map fun c => { c with arguments := word :: c.arguments }
    else .ok { arguments := word :: rest }

end CommandLine
end QueryTemplate
