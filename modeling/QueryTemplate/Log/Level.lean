/-! Levels of log records. -/
namespace QueryTemplate

/-- How grave a record is; only some levels have names. -/
abbrev Level := Int

namespace Level

def named : List (String × Level) :=
  [("CRITICAL", 50), ("ERROR", 40), ("WARNING", 30), ("INFO", 20), ("DEBUG", 10), ("NOTSET", 0)]

/-- Second names of levels. -/
def aliases : List (String × Level) := [("FATAL", 50), ("WARN", 30)]

/-- The level of a name in capitals. -/
def ofName? (name : String) : Option Level := (named ++ aliases).lookup name

def name (level : Level) : String :=
  match named.find? fun n => n.2 == level with
  | some (name, _) => name
  | none => "Level " ++ toString level

/-- The level of details, which are shown to those who ask for them. -/
def debug : Level := 10

/-- The level of the loggers above all others. -/
def inherited : Level := 30

end Level
end QueryTemplate
