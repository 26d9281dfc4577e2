import QueryTemplate.Directory
import QueryTemplate.Query.Escaper
import QueryTemplate.Report

/-! The escapers on offer, and asking for one by name. -/
namespace QueryTemplate

/-- Why there is no escaper as asked for. -/
inductive EscaperError where
  | unknown (name : String) (available : List String)
  | cannotCreate (name : String) (arguments : List String)
deriving DecidableEq, Repr

namespace EscaperError

/-- The variable that configures the escaper. -/
def configKey : String := "QB_ESCAPER"

def message : EscaperError → String
  | .unknown name available =>
    "Unknown escaper '" ++ name ++ "'. Available: " ++ quotedList available
  | .cannotCreate name arguments =>
    "Escaper '" ++ name ++ "' cannot be created with " ++ quotedList arguments

def report (e : EscaperError) : Report :=
  .configuration e.message (some configKey)
    { cause := match e with
        | .unknown _ _ => none
        | .cannotCreate _ _ => some "TypeError" }

end EscaperError

namespace Escaper

/-- An escaper that is made for a server which wants quotation marks in some way. -/
abbrev Make := Quoting → Escaper

def mysqlRegistration : Registration Make where
  name := mysql.name
  component :=
    { label := mysql.label, description := mysql.description, make := fun _ => mysql }
  aliases := ["pymysql"]
  metadata := [("requires_connection", .bool false)]

def connectionRegistration : Registration Make where
  name := "connection"
  component :=
    { label := (connection .backslash).label
      description := (connection .backslash).description
      parameters := ["connection"]
      make := connection }
  metadata := [("requires_connection", .bool true)]

def offered : Directory Make := ({} : Directory Make).registerAll [mysqlRegistration, connectionRegistration]

/-- The escaper of a name or alias, made from arguments with these names for a server that quotes
so. -/
def ask (name : String) (arguments : List String) (quoting : Quoting) :
    Except EscaperError Escaper :=
  if !offered.isRegistered name then .error (.unknown name offered.names)
  else match offered.createNamed name arguments with
    | .ok c => .ok (c.make quoting)
    | .error _ => .error (.cannotCreate name (arguments.mergeSort fun a b => decide (a ≤ b)))

/-- The escaper of a name, where there is no connection. -/
def named (name : String) : Except EscaperError Escaper := ask name [] .backslash

end Escaper
end QueryTemplate
