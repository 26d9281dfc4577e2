import QueryTemplate.Log.Record
import QueryTemplate.Settings.Cache

/-! Setting up the logger. -/
namespace QueryTemplate

/-- A logger: what its handlers write like, from which level on, and whether records go on to the
loggers above it. -/
structure Logger where
  handlers : List LogLayout := []
  level : Level := 0
  propagate : Bool := true
deriving DecidableEq, Repr

/-- A level that is asked for and not there. -/
structure LevelError where
  name : String
deriving DecidableEq, Repr

def LevelError.message (e : LevelError) : String := "Unknown level: " ++ quotedString e.name

/-- The layout of a name in any case; an unknown one asks for the readable. -/
def LogLayout.ofName (name : String) : LogLayout :=
  let lower := Text.lower name.toList
  if lower = "rich".toList then .columns else if lower = "json".toList then .json else .readable

namespace Logger

/-- The logger that the whole library writes to. -/
def root : String := "querybinder"

/-- Sets the level of a name in any case. -/
def setLevel (l : Logger) (name : String) : Except LevelError Logger :=
  let upper := String.ofList (Text.upper name.toList)
  match Level.ofName? upper with
  | some level => .ok { l with level }
  | none => .error ⟨upper⟩

/-- One handler takes the place of all there were, then the level is set. An unknown level leaves
the new handler and the old level. -/
def setUp (l : Logger) (s : LoggingSettings) : Logger × Except LevelError Unit :=
  let l := { l with handlers := [LogLayout.ofName s.format] }
  match l.setLevel s.level with
  | .ok l => ({ l with propagate := false }, .ok ())
  | .error e => (l, .error e)

/-- The level from which on records count: a logger without one has that of the loggers above. -/
def effectiveLevel (l : Logger) : Level := if l.level = 0 then Level.inherited else l.level

/-- What the handlers write of a record; one that writes in columns puts them by a layout. -/
def write (l : Logger) (layout : String → Level → String → String) (r : LogRecord) :
    Except MessageError (List String) :=
  if r.level < l.effectiveLevel then .ok []
  else l.handlers.mapM fun
    | .readable => r.readable
    | .json => r.json
    | .columns => r.columns layout

end Logger

/-- Why logging is not set up. -/
inductive SetupError where
  | settings (e : SettingsError)
  | level (e : LevelError)
deriving DecidableEq, Repr

namespace Configuration

/-- Sets up the logger as given, or else as configured. -/
def setUpLogging (c : Configuration) (l : Logger) (given : Option (List (String × Json))) :
    Configuration × Logger × Except SetupError Unit :=
  let (c, settings) := match given with
    | some values => (c, Settings.loadLogging (Environment.lowered c.environment) values)
    | none => (c.get.1, c.get.2.map Settings.logging)
  match settings with
  | .error e => (c, l, .error (.settings e))
  | .ok s =>
    let (l, outcome) := l.setUp s
    (c, l, outcome.mapError .level)

end Configuration
end QueryTemplate
