import QueryTemplate.Query.Compile
import QueryTemplate.Query.Offered
import QueryTemplate.Settings.Load

/-! Settings that are loaded once and kept, and the calls that read them. -/
namespace QueryTemplate

/-- The variables, the file of variables, the settings that were loaded from them, and how settings
are loaded. -/
structure Configuration where
  environment : Environment := []
  file : Option Text := none
  cached : Option Settings := none
  loads : Environment → Option Text → Except SettingsError Settings := Settings.load

/-- Why a call that reads the settings fails. -/
inductive CallError where
  | settings (e : SettingsError)
  | escaper (e : EscaperError)
  | compile (e : CompileError)
deriving DecidableEq, Repr

namespace Configuration

def load (c : Configuration) : Except SettingsError Settings :=
  c.loads c.environment c.file

/-- The settings that are kept, or else those that load now and are kept from now on. -/
def get (c : Configuration) : Configuration × Except SettingsError Settings :=
  match c.cached with
  | some s => (c, .ok s)
  | none =>
    match c.load with
    | .ok s => ({ c with cached := some s }, .ok s)
    | .error e => (c, .error e)

/-- Drops the settings that are kept and loads them anew. -/
def reload (c : Configuration) : Configuration × Except SettingsError Settings :=
  { c with cached := none }.get

/-- The escaper of a name, or else the configured one. -/
def escaper (c : Configuration) (name : Option String) (arguments : List String)
    (quoting : Quoting) : Configuration × Except CallError Escaper :=
  match name with
  | some name => (c, (Escaper.ask name arguments quoting).mapError .escaper)
  | none =>
    let (c, settings) := c.get
    (c, match settings with
      | .ok s => (Escaper.ask s.compiler.escaper arguments quoting).mapError .escaper
      | .error e => .error (.settings e))

/-- A compiler; what is not given is as configured. -/
def compiler (c : Configuration) (escaper : Option Escaper) (table : SpecifierTable)
    (strict : Option Bool) : Configuration × Except CallError Compiler :=
  match escaper, strict with
  | some escaper, some strict => (c, .ok ⟨escaper, table, strict⟩)
  | _, _ =>
    let (c, settings) := c.get
    (c, match settings with
      | .error e => .error (.settings e)
      | .ok s =>
        let strict := strict.getD s.compiler.strict
        match escaper with
        | some escaper => .ok ⟨escaper, table, strict⟩
        | none =>
          match Escaper.named s.compiler.escaper with
          | .ok escaper => .ok ⟨escaper, table, strict⟩
          | .error e => .error (.escaper e))

/-- The compiler for a database: an escaper that is given comes first, then that of the connection,
then the configured one. -/
def databaseCompiler (c : Configuration) (connection : Option Quoting) (escaper : Option Escaper) :
    Configuration × Except CallError Compiler :=
  c.compiler (escaper <|> connection.map Escaper.connection) .standard none

/-- Compiles with the standard table, as configured. -/
def compileQuery (c : Configuration) (escaper : Option Escaper) (template : Text) (args : Value) :
    Configuration × Except CallError Text :=
  let (c, compiler) := c.compiler escaper .standard none
  (c, match compiler with
    | .error e => .error e
    | .ok compiler =>
      match (compiler.compileWith template args).result with
      | .ok compilation => .ok compilation.query
      | .error e => .error (.compile e))

/-- A change of a variable or a call. -/
inductive Step where
  | set (name value : String)
  | unset (name : String)
  | get
  | reload
  | escaper
  | compile (template : Text) (args : Value)

inductive Answer where
  | done
  | settings (result : Except SettingsError Settings)
  | escaper (result : Except CallError Escaper)
  | query (result : Except CallError Text)

def step (c : Configuration) : Step → Configuration × Answer
  | .set name value => ({ c with environment := c.environment.set name value }, .done)
  | .unset name => ({ c with environment := c.environment.unset name }, .done)
  | .get => (c.get.1, .settings c.get.2)
  | .reload => (c.reload.1, .settings c.reload.2)
  | .escaper => let r := c.escaper none [] .backslash; (r.1, .escaper r.2)
  | .compile template args => let r := c.compileQuery none template args; (r.1, .query r.2)

def run (c : Configuration) : List Step → List Answer
  | [] => []
  | s :: rest => (c.step s).2 :: (c.step s).1.run rest

end Configuration
end QueryTemplate
