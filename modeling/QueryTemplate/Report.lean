import QueryTemplate.Json.Basic
import QueryTemplate.Query.Refusal

/-! Errors as callers see them: a class, a message, details and what the class adds. -/
namespace QueryTemplate

/-- Classes of errors, from general to narrow. -/
inductive ErrorClass where
  | general
  | configuration
  | compile
  | unknownSpecifier
  | argumentCount
  | valueFormat
  | invalidValue
  | invalidType
deriving DecidableEq, Repr

namespace ErrorClass

def name : ErrorClass → String
  | .general => "QueryBinderError"
  | .configuration => "ConfigurationError"
  | .compile => "CompileError"
  | .unknownSpecifier => "UnknownSpecifierError"
  | .argumentCount => "ArgumentCountError"
  | .valueFormat => "ValueFormatError"
  | .invalidValue => "InvalidValueError"
  | .invalidType => "InvalidTypeError"

/-- The classes a class belongs to, nearest first. -/
def above : ErrorClass → List ErrorClass
  | .general => []
  | .configuration | .compile => [.general]
  | .unknownSpecifier | .argumentCount | .valueFormat => [.compile, .general]
  | .invalidValue | .invalidType => [.valueFormat, .compile, .general]

end ErrorClass

structure Report where
  kind : ErrorClass
  message : String
  /-- In the order they were first put in. -/
  details : List (String × Json)
  /-- The class of the error behind this one. -/
  cause : Option String
  /-- What the class adds to message and details. -/
  attributes : List (String × Json)

namespace Report

/-- The message, and the details if there are any. -/
def text (r : Report) : String :=
  if r.details.isEmpty then r.message
  else r.message ++ " | Details: " ++ (Json.object r.details).shown

/-- What is attached to an error from outside. -/
structure Extra where
  details : List (String × Json) := []
  cause : Option String := none

def optional : Option String → Json
  | some s => .string s
  | none => .null

/-- A name in a message, which may be missing. -/
def inMessage : Option String → String
  | some s => s
  | none => Json.null.shown

/-- Puts a name among the details unless it is missing or empty. -/
def withName (field : String) (value : Option String) (details : List (String × Json)) :
    List (String × Json) :=
  match value with
  | some s => if s.isEmpty then details else Assoc.put field (.string s) details
  | none => details

def general (message : String) (extra : Extra) : Report :=
  ⟨.general, message, extra.details, extra.cause, []⟩

def configuration (message : String) (key : Option String) (extra : Extra) : Report :=
  ⟨.configuration, message, withName "config_key" key extra.details, extra.cause,
    [("config_key", optional key)]⟩

def compile (message : String) (template : Option String) (extra : Extra) : Report :=
  ⟨.compile, message, extra.details, extra.cause, [("template", optional template)]⟩

def unknownSpecifier (tokens : List String) (template : Option String) (extra : Extra) : Report :=
  ⟨.unknownSpecifier, "Invalid specifier(s): " ++ ", ".intercalate tokens ++ ".", extra.details,
    extra.cause,
    [("template", optional template), ("specifiers", .array (tokens.map .string))]⟩

def argumentCount (expected received : Int) (template : Option String) (extra : Extra) : Report :=
  ⟨.argumentCount,
    "Template expects " ++ toString expected ++ " argument(s), got " ++ toString received,
    Assoc.putAll [("expected", .int expected), ("received", .int received)] extra.details,
    extra.cause,
    [("template", optional template), ("expected", .int expected), ("received", .int received)]⟩

def valueFormat (message : String) (token : Option String) (extra : Extra) : Report :=
  ⟨.valueFormat, message, extra.details, extra.cause,
    [("template", .null), ("specifier", optional token)]⟩

def invalidValue (token typeName : Option String) (extra : Extra) : Report :=
  ⟨.invalidValue, "Invalid value for " ++ inMessage token ++ " specifier",
    withName "value_type" typeName extra.details, extra.cause,
    [("template", .null), ("specifier", optional token), ("value_type", optional typeName)]⟩

def invalidType (typeName token : Option String) (extra : Extra) : Report :=
  ⟨.invalidType, "Invalid type argument: " ++ inMessage typeName ++ ".",
    withName "specifier" token extra.details, extra.cause,
    [("template", .null), ("specifier", optional token), ("type_name", optional typeName)]⟩

end Report

/-- How a refusal is reported. -/
def Refusal.report : Refusal → Report
  | .unknownSpecifiers tokens template =>
    .unknownSpecifier (tokens.map String.ofList) (some (String.ofList template)) {}
  | .argumentCount expected received template =>
    .argumentCount expected received (some (String.ofList template)) {}
  | .invalidValue token typeName => .invalidValue (some (String.ofList token)) (some typeName) {}
  | .invalidType typeName token => .invalidType (some typeName) (some (String.ofList token)) {}

theorem Refusal.report_message (r : Refusal) : r.report.message = r.message := by
  cases r <;> rfl

end QueryTemplate
