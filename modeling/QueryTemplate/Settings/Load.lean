import QueryTemplate.Json.Reader
import QueryTemplate.Settings.EnvFile
import QueryTemplate.Settings.Field

/-! Loading the settings from the environment and a file of variables. -/
namespace QueryTemplate

/-- A field: its name, the variable that sets it, and whether its text is a document. -/
structure FieldName where
  name : String
  variableName : String
  isDocument : Bool := false
deriving DecidableEq, Repr

/-- Settings that belong together. -/
structure Group where
  name : String
  fields : List FieldName
deriving DecidableEq, Repr

namespace Group

def compiler : Group :=
  ⟨"compiler",
    [⟨"escaper", "QB_ESCAPER", false⟩, ⟨"strict_argument_count", "QB_STRICT_ARGUMENT_COUNT", false⟩]⟩

def server : Group :=
  ⟨"api",
    [⟨"host", "QB_API_HOST", false⟩, ⟨"port", "QB_API_PORT", false⟩, ⟨"debug", "QB_DEBUG", false⟩,
      ⟨"cors_origins", "QB_CORS_ORIGINS", true⟩]⟩

def logging : Group :=
  ⟨"logging", [⟨"level", "QB_LOG_LEVEL", false⟩, ⟨"format", "QB_LOG_FORMAT", false⟩]⟩

end Group

namespace Settings

/-- The environment as a source, and the file. -/
def environmentSource : String := "EnvSettingsSource"

def fileSource : String := "DotEnvSettingsSource"

/-- The document in a variable's text. -/
def document (field source text : String) : Except SettingsError Json :=
  match Json.read text.toList with
  | .ok j => .ok j
  | .error _ => .error (.unreadable field source)

/-- The value that a variable of the environment, its names in lower case, gives a field. -/
def variableValue (env : Environment) (f : FieldName) : Except SettingsError (Option Json) :=
  match env.lookup (Environment.lowerName f.variableName) with
  | none => .ok none
  | some text =>
    if f.isDocument then
      (document f.name environmentSource text).map fun
        | .null => none
        | j => some j
    else .ok (some (.string text))

/-- The values of a group's fields: those given come before those of the environment. -/
def groupValues (g : Group) (env : Environment) (given : List (String × Json)) :
    Except SettingsError (List (String × Json)) := do
  let found ← g.fields.mapM fun f => do
    let value ← variableValue env f
    pure ((match given.lookup f.variableName with
      | some j => some j
      | none => value).map fun j => (f.variableName, j))
  pure (found.filterMap id)

/-- Reads a field if it has a value. -/
def readField {α : Type} (values : List (String × Json)) (name : String)
    (read : Json → Except (List Issue) α) (default : α) : Except (List Issue) α :=
  match values.lookup name with
  | some j => Field.within (.field name) (read j)
  | none => .ok default

def liftIssues {α : Type} : Except (List Issue) α → Except SettingsError α
  | .ok a => .ok a
  | .error issues => .error (.invalid issues)

def loadCompiler (env : Environment) (given : List (String × Json)) :
    Except SettingsError CompilerSettings := do
  let values ← groupValues .compiler env given
  let default : CompilerSettings := {}
  let (escaper, strict) ← liftIssues <| Field.both
    (readField values "QB_ESCAPER" Field.string default.escaper)
    (readField values "QB_STRICT_ARGUMENT_COUNT" Field.bool default.strict)
  pure ⟨escaper, strict⟩

def loadServer (env : Environment) (given : List (String × Json)) :
    Except SettingsError ServerSettings := do
  let values ← groupValues .server env given
  let default : ServerSettings := {}
  let (host, port, debug, corsOrigins) ← liftIssues <| Field.both
    (readField values "QB_API_HOST" Field.string default.host) <| Field.both
    (readField values "QB_API_PORT" Field.integer default.port) <| Field.both
    (readField values "QB_DEBUG" Field.bool default.debug)
    (readField values "QB_CORS_ORIGINS" Field.strings default.corsOrigins)
  pure ⟨host, port, debug, corsOrigins⟩

def loadLogging (env : Environment) (given : List (String × Json)) :
    Except SettingsError LoggingSettings := do
  let values ← groupValues .logging env given
  let default : LoggingSettings := {}
  let (level, format) ← liftIssues <| Field.both
    (readField values "QB_LOG_LEVEL" Field.string default.level)
    (readField values "QB_LOG_FORMAT" Field.string default.format)
  pure ⟨level, format⟩

mutual

/-- Puts fields over fields; where both are objects, their fields. -/
def mergeFields : List (String × Json) → List (String × Json) → List (String × Json)
  | [], under => under
  | (name, v) :: rest, under =>
    mergeFields rest (Assoc.put name (merge v ((under.lookup name).getD .null)) under)

def merge : Json → Json → Json
  | .object fields, .object under => .object (mergeFields fields under)
  | v, _ => v

end

/-- The parts of a name between double low lines. -/
def nameParts : Text → List Text
  | [] => [[]]
  | '_' :: '_' :: rest => [] :: nameParts rest
  | c :: rest =>
    match nameParts rest with
    | part :: parts => (c :: part) :: parts
    | [] => [[c]]

/-- Puts a value at the end of a path of fields; a field that is there and no object is left. -/
def putAt (value : Json) : List String → List (String × Json) → List (String × Json)
  | [], fields => fields
  | [name], fields => Assoc.put name value fields
  | name :: path, fields =>
    match fields.lookup name with
    | none => Assoc.put name (.object (putAt value path [])) fields
    | some (.object inner) => Assoc.put name (.object (putAt value path inner)) fields
    | some _ => fields

/-- Is the path that of a field whose text is a document? -/
def isDocumentPath (g : Group) (path : List String) : Bool :=
  match path with
  | [name] => g.fields.any fun f =>
    f.isDocument && (f.name == name || Environment.lowerName f.variableName == name)
  | _ => false

/-- The value that a variable with a path gives: a document, a text or nothing. -/
def pathValue (g : Group) (source : String) (path : List String) :
    Option String → Except SettingsError Json
  | none => .ok .null
  | some text =>
    if isDocumentPath g path && !text.isEmpty then document g.name source text
    else .ok (.string text)

/-- The fields that variables give which begin with the group's name and a double low line. -/
def pathFields (g : Group) (source : String) (settings : List (String × Option String)) :
    Except SettingsError (List (String × Json)) :=
  let front := (g.name ++ "__").toList
  settings.foldlM
    (fun fields (name, text) =>
      if front.isPrefixOf name.toList then do
        let path := (nameParts (name.toList.drop front.length)).map String.ofList
        let value ← pathValue g source path text
        pure (putAt value path fields)
      else pure fields)
    []

/-- Fields under the variables they are set by, whatever the case they are written in. -/
def renameFields (g : Group) (fields : List (String × Json)) : List (String × Json) :=
  Assoc.putAll (fields.map fun (name, v) =>
    match g.fields.find? fun f =>
      Environment.lowerName f.variableName == Environment.lowerName name with
    | some f => (f.variableName, v)
    | none => (name, v)) []

/-- What a source gives for a whole group: the document in the variable of its name, and over it
what variables with paths give. -/
def groupDocument (g : Group) (source : String) (settings : List (String × Option String)) :
    Except SettingsError (Option Json) := do
  match (settings.lookup g.name).join with
  | none => do
    let fields ← pathFields g source settings
    pure (if fields.isEmpty then none else some (.object (renameFields g fields)))
  | some text => do
    match ← document g.name source text with
    | .null => pure none
    | .object fields => do
      let upper ← pathFields g source settings
      pure (some (.object (renameFields g (mergeFields upper fields))))
    | j => pure (some j)

/-- What both sources give for a group, the environment over the file. -/
def givenFor (upper lower : Option Json) : Option Json :=
  match upper, lower with
  | some o, some u => some (merge o u)
  | some o, none => some o
  | none, lower => lower

/-- Loads a group from what is given for it. A group that nothing is given for fails at once; what
is wrong with one that something is given for is counted among the issues of the whole. -/
def loadGroup {α : Type} (g : Group) (load : List (String × Json) → Except SettingsError α) :
    Option Json → Except SettingsError (Except (List Issue) α)
  | none => (load []).map .ok
  | some (.object given) =>
    match load given with
    | .ok a => .ok (.ok a)
    | .error (.invalid issues) => .ok (Field.within (.field g.name) (.error issues))
    | .error (.unreadable _ _) => .ok (.error [⟨[.field g.name], "value_error"⟩])
  | some _ => .ok (.error [⟨[.field g.name], "model_type"⟩])

/-- The settings that an environment and a file of variables give. -/
def load (env : Environment) (file : Option Text) : Except SettingsError Settings := do
  let lowered := Environment.lowered env
  let upper := lowered.map fun (name, text) => (name, some text)
  let lower := Environment.lowered ((file.map (EnvFile.assignments env)).getD [])
  let compilerOver ← groupDocument .compiler environmentSource upper
  let serverOver ← groupDocument .server environmentSource upper
  let loggingOver ← groupDocument .logging environmentSource upper
  let compilerUnder ← groupDocument .compiler fileSource lower
  let serverUnder ← groupDocument .server fileSource lower
  let loggingUnder ← groupDocument .logging fileSource lower
  let compiler ← loadGroup .compiler (loadCompiler lowered) (givenFor compilerOver compilerUnder)
  let server ← loadGroup .server (loadServer lowered) (givenFor serverOver serverUnder)
  let logging ← loadGroup .logging (loadLogging lowered) (givenFor loggingOver loggingUnder)
  let (compiler, server, logging) ← liftIssues (Field.both compiler (Field.both server logging))
  pure ⟨compiler, server, logging⟩

end Settings
end QueryTemplate
