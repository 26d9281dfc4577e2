import QueryTemplate.Text.Quoted

/-! Why a template does not compile. -/
namespace QueryTemplate

/-- A fault of the call: of its template or of its arguments. -/
inductive Refusal where
  /-- The template has tokens that no specifier has. -/
  | unknownSpecifiers (tokens : List Text) (template : Text)
  | argumentCount (expected received : Nat) (template : Text)
  /-- The specifier does not take values of this type, or not this one. -/
  | invalidValue (token : Text) (typeName : String)
  /-- No specifier takes values of this type here. -/
  | invalidType (typeName : String) (token : Text)
deriving DecidableEq, Repr

/-- What the compiler itself would be to blame for. -/
inductive Defect where
  /-- A specifier without a kind was to write a value. -/
  | unhandledKind
  /-- A placeholder is numbered beyond the arguments. -/
  | missingArgument
  /-- A pass found more placeholders than values in the queue. -/
  | emptyQueue
  /-- After all passes a segment is still a placeholder. -/
  | unfilled (index : Nat)
deriving DecidableEq, Repr

inductive CompileError where
  | refusal (r : Refusal)
  | defect (d : Defect)
  /-- The arguments are given as a value that yields no items. -/
  | notItems (fullTypeName : String)
deriving DecidableEq, Repr

/-- What a defect, or arguments that are none, are reported with. -/
def Defect.message : Defect → String
  | .unhandledKind => "Unhandled specifier kind: None"
  | .missingArgument => "list index out of range"
  | .emptyQueue => "pop from an empty deque"
  | .unfilled index =>
    "sequence item " ++ toString index ++ ": expected str instance, Placeholder found"

/-- The tokens of a list, each after a comma but the first. -/
def tokenList (tokens : List Text) : String := ", ".intercalate (tokens.map String.ofList)

def Refusal.message : Refusal → String
  | .unknownSpecifiers tokens _ => "Invalid specifier(s): " ++ tokenList tokens ++ "."
  | .argumentCount expected received _ =>
    "Template expects " ++ toString expected ++ " argument(s), got " ++ toString received
  | .invalidValue token _ => "Invalid value for " ++ String.ofList token ++ " specifier"
  | .invalidType typeName _ => "Invalid type argument: " ++ typeName ++ "."

def CompileError.message : CompileError → String
  | .refusal r => r.message
  | .defect d => d.message
  | .notItems name => "'" ++ name ++ "' object is not iterable"

end QueryTemplate
