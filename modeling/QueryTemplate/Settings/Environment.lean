import QueryTemplate.Assoc
import QueryTemplate.Text.Case

/-! Environment variables. -/
namespace QueryTemplate

/-- Variables and their texts, in the order they were first set. -/
abbrev Environment := List (String × String)

namespace Environment

def set (name value : String) (env : Environment) : Environment := Assoc.put name value env

def unset (name : String) (env : Environment) : Environment := Assoc.erase name env

def lowerName (name : String) : String := String.ofList (Text.lower name.toList)

/-- The same variables under names in lower case; of two that become one, the later counts. -/
def lowered {ν : Type} (settings : List (String × ν)) : List (String × ν) :=
  Assoc.putAll (settings.map fun (name, value) => (lowerName name, value)) []

end Environment
end QueryTemplate
