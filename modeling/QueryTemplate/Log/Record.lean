import QueryTemplate.Json.Writer
import QueryTemplate.Log.Level
import QueryTemplate.Log.Message

/-! Log records and their written forms. -/
namespace QueryTemplate

/-- An error that a record reports. -/
structure ReportedError where
  className : String
  message : String
deriving DecidableEq, Repr

/-- The class, and the message if there is one. -/
def ReportedError.text (e : ReportedError) : String :=
  if e.message.isEmpty then e.className else e.className ++ ": " ++ e.message

structure LogRecord where
  time : String
  level : Level
  logger : String
  message : String
  arguments : List Value := []
  /-- Further fields, which may replace those that every record has. -/
  extra : List (String × Json) := []
  error : Option ReportedError := none

/-- How a handler writes records. -/
inductive LogLayout where
  | readable
  | json
  /-- In columns, for a terminal. -/
  | columns
deriving DecidableEq, Repr

namespace LogRecord

/-- The message with its arguments. -/
def text (r : LogRecord) : Except MessageError String :=
  (fillMessage r.message.toList r.arguments).map String.ofList

/-- A name with blanks after it up to a width. -/
def padRight (width : Nat) (s : String) : String :=
  s ++ String.ofList (List.replicate (width - s.length) ' ')

def readable (r : LogRecord) : Except MessageError String := do
  let text ← r.text
  let line := padRight 7 r.level.name ++ " " ++ r.logger ++ ": " ++ text
  pure (match r.error with
    | some e => line ++ "\n" ++ e.text
    | none => line)

/-- The fields of a record as data, in order. -/
def fields (r : LogRecord) : Except MessageError (List (String × Json)) := do
  let text ← r.text
  let fields := Assoc.putAll r.extra
    [("timestamp", .string r.time), ("level", .string r.level.name), ("logger", .string r.logger),
      ("message", .string text)]
  pure (match r.error with
    | some e => Assoc.put "exception" (.string e.text) fields
    | none => fields)

def json (r : LogRecord) : Except MessageError String := do
  pure (String.ofList (Json.object (← r.fields)).render)

/-- The record in columns, as a layout puts its time, its level and its text. -/
def columns (layout : String → Level → String → String) (r : LogRecord) :
    Except MessageError String := do
  pure (layout r.time r.level (← r.text))

end LogRecord
end QueryTemplate
