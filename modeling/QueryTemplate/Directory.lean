import QueryTemplate.Assoc
import QueryTemplate.Json.Basic

/-! Directories of components, found by name or alias. -/
namespace QueryTemplate

/-- Something that can be registered: what it is called, what it says of itself, the names of what
it is made from, and how it is made. -/
structure Component (α : Type) where
  label : String
  description : String := ""
  parameters : List String := []
  make : α

/-- What is noted about a registration. -/
abbrev Metadata := List (String × Json)

/-- One call that registers a component. -/
structure Registration (α : Type) where
  name : String
  component : Component α
  aliases : List String := []
  metadata : Metadata := []

/-- Components and notes under their names, and the name each alias stands for. -/
structure Directory (α : Type) where
  items : List (String × Component α) := []
  aliases : List (String × String) := []
  metadata : List (String × Metadata) := []

inductive DirectoryError where
  | notFound (name : String) (available : List String)
  | wrongArguments
deriving DecidableEq, Repr

def DirectoryError.message : DirectoryError → String
  | .notFound name available =>
    "'" ++ name ++ "' not found in registry. Available: " ++ quotedList available
  | .wrongArguments => "wrong arguments"

namespace Directory

variable {α : Type}

/-- A new registration under a name replaces the old one in its place. -/
def register (d : Directory α) (r : Registration α) : Directory α where
  items := Assoc.put r.name r.component d.items
  metadata := Assoc.put r.name r.metadata d.metadata
  aliases := Assoc.putAll (r.aliases.map fun a => (a, r.name)) d.aliases

def registerAll (d : Directory α) (rs : List (Registration α)) : Directory α := rs.foldl register d

/-- The name that a name or alias stands for: an alias comes before a name. -/
def resolve (d : Directory α) (name : String) : String := (d.aliases.lookup name).getD name

/-- The registered names, in the order of first registration. -/
def names (d : Directory α) : List String := d.items.map (·.1)

def get (d : Directory α) (name : String) : Except DirectoryError (Component α) :=
  match d.items.lookup (d.resolve name) with
  | some c => .ok c
  | none => .error (.notFound name d.names)

def isRegistered (d : Directory α) (name : String) : Bool :=
  (d.items.lookup (d.resolve name)).isSome

def metadataOf (d : Directory α) (name : String) : Metadata :=
  (d.metadata.lookup (d.resolve name)).getD []

/-- The component to be made from this many arguments. -/
def create (d : Directory α) (name : String) (arguments : Nat) :
    Except DirectoryError (Component α) := do
  let c ← d.get name
  if c.parameters.length = arguments then pure c else .error .wrongArguments

/-- The component to be made from arguments with these names. -/
def createNamed (d : Directory α) (name : String) (arguments : List String) :
    Except DirectoryError (Component α) := do
  let c ← d.get name
  if arguments.isPerm c.parameters then pure c else .error .wrongArguments

/-- What is listed for a name: what is noted about the registration goes over name and
description. -/
def entry (d : Directory α) (name : String) : Except DirectoryError Metadata := do
  let c ← d.get name
  pure (Assoc.putAll (d.metadataOf name)
    [("name", .string name), ("description", .string c.description)])

def list (d : Directory α) : Except DirectoryError (List Metadata) := d.names.mapM d.entry

end Directory
end QueryTemplate
