import QueryTemplate.Assoc
import QueryTemplate.Text.Basic

/-! Files and directories, and the paths that lead to them. -/
namespace QueryTemplate

/-- Why a path leads nowhere. -/
inductive PathError where
  /-- The path holds the character that ends paths. -/
  | embeddedNul
  | nameTooLong
  /-- The path goes on below a file. -/
  | notDirectory
  | missing
  | isDirectory
deriving DecidableEq, Repr

def PathError.message : PathError → String
  | .embeddedNul => "Embedded null byte"
  | .nameTooLong => "File name too long"
  | .notDirectory => "Not a directory"
  | .missing => "No such file or directory"
  | .isDirectory => "Is a directory"

/-- A place below the working directory or, where it is absolute, below the root: the names on the
way to it, the last one first. Only in front of all others does a name lead up. -/
structure Location where
  isAbsolute : Bool
  names : List Text
deriving DecidableEq, Repr

namespace Location

def up : Text := ['.', '.']

def path (l : Location) : String :=
  String.ofList ((if l.isAbsolute then ['/'] else []) ++ ['/'].intercalate l.names.reverse)

/-- One name further. There is nothing above the root. -/
def step (l : Location) (name : Text) : Location :=
  if name = up then
    match l.names with
    | [] => if l.isAbsolute then l else { l with names := [up] }
    | last :: rest => if last = up then { l with names := up :: l.names } else { l with names := rest }
  else { l with names := name :: l.names }

/-- The start of a path and the names on it; one dot is no name. -/
def route (path : Text) : Location × List Text :=
  (⟨path.head? == some '/', []⟩, (path.splitOn '/').filter fun name => name ≠ [] ∧ name ≠ ['.'])

/-- Where a path leads if all that it goes through are directories. -/
def ofPath (path : Text) : Location := (route path).2.foldl step (route path).1

/-- The places that a path goes through, from where it starts to where it leads. -/
def passed (path : Text) : List Location :=
  let (start, names) := route path
  (List.range (names.length + 1)).map fun n => (names.take n).foldl step start

end Location

/-- Files with their texts, and directories, each under the path from the working directory. That
directory, the ones above it and the root are always there. -/
structure Storage where
  files : List (String × Text) := []
  directories : List String := []
deriving DecidableEq, Repr

namespace Storage

/-- What a path names. -/
inductive Target where
  | directory
  /-- A file, which need not be there. -/
  | file (path : String)
  /-- A directory that is not there: the path ends with a slash. -/
  | newDirectory
deriving DecidableEq, Repr

def isFile (s : Storage) (l : Location) : Bool := (s.files.lookup l.path).isSome

def isDirectory (s : Storage) (l : Location) : Bool :=
  l.names.all (· == Location.up) || s.directories.contains l.path

/-- The most bytes of a name, and of a path. -/
def nameLimit : Nat := 255

def pathLimit : Nat := 4095

def fits (limit : Nat) (text : Text) : Bool := (String.ofList text).utf8ByteSize ≤ limit

/-- Follows names from one place to another, through directories. -/
def follow (s : Storage) (l : Location) : List Text → Except PathError Location
  | [] => .ok l
  | name :: rest =>
    if !fits nameLimit name then .error .nameTooLong
    else
      let next := l.step name
      if rest.isEmpty || s.isDirectory next then s.follow next rest
      else .error (if s.isFile next then .notDirectory else .missing)

def target (s : Storage) (path : Text) : Except PathError Target :=
  if path.contains '\x00' then .error .embeddedNul
  else if path.isEmpty then .error .missing
  else if !fits pathLimit path then .error .nameTooLong
  else do
    let (start, names) := Location.route path
    let l ← s.follow start names
    if s.isDirectory l then pure .directory
    else if path.getLast? == some '/' then pure .newDirectory
    else if ['/', '.'].isSuffixOf path then throw (if s.isFile l then .notDirectory else .missing)
    else pure (.file l.path)

/-- Is there anything that a path names? -/
def has (s : Storage) (path : Text) : Bool :=
  match s.target path with
  | .ok .directory => true
  | .ok (.file p) => (s.files.lookup p).isSome
  | _ => false

def read (s : Storage) (path : Text) : Except PathError Text := do
  match ← s.target path with
  | .directory => throw .isDirectory
  | .newDirectory => throw .missing
  | .file p =>
    match s.files.lookup p with
    | some text => pure text
    | none => throw .missing

/-- Puts text into a file, which need not be there before. -/
def write (s : Storage) (path text : Text) : Except PathError Storage := do
  match ← s.target path with
  | .directory | .newDirectory => throw .isDirectory
  | .file p => pure { s with files := Assoc.put p text s.files }

end Storage
end QueryTemplate
