import QueryTemplate.Json.Basic

/-! What can be configured, and why a configuration is refused. -/
namespace QueryTemplate

structure CompilerSettings where
  escaper : String := "mysql"
  strict : Bool := true
deriving DecidableEq, Repr

structure ServerSettings where
  host : String := "0.0.0.0"
  port : Int := 8000
  debug : Bool := false
  corsOrigins : List String := ["*"]
deriving DecidableEq, Repr

structure LoggingSettings where
  level : String := "INFO"
  format : String := "readable"
deriving DecidableEq, Repr

structure Settings where
  compiler : CompilerSettings := {}
  server : ServerSettings := {}
  logging : LoggingSettings := {}
deriving DecidableEq, Repr

/-- A step on the way to a value that was refused. -/
inductive Place where
  | field (name : String)
  | item (index : Nat)
deriving DecidableEq, Repr

/-- A value that was refused: where, and for what. -/
structure Issue where
  place : List Place
  kind : String
deriving DecidableEq, Repr

/-- Why settings do not load. -/
inductive SettingsError where
  | invalid (issues : List Issue)
  /-- The text for a field is no document. -/
  | unreadable (field source : String)
deriving DecidableEq, Repr

def SettingsError.message : SettingsError → String
  | .invalid _ => "invalid settings"
  | .unreadable field source =>
    "error parsing value for field \"" ++ field ++ "\" from source \"" ++ source ++ "\""

end QueryTemplate
