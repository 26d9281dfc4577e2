import QueryTemplate.Log.Setup
import QueryTemplate.Service.Request
import QueryTemplate.Version

/-! What the service answers. -/
namespace QueryTemplate

/-- An answer: a document with its status, or what is wrong with the request. -/
inductive Reply where
  | document (status : Nat) (body : Json)
  | invalid (issues : List Issue)
deriving Repr

/-- What the service breaks down over. -/
inductive ServiceFault where
  /-- An answer would hold a number that is not finite. -/
  | notFinite
  /-- An answer would hold a text that cannot be written. -/
  | notEncodable
  /-- A field of an answer does not take its text. -/
  | notText
  /-- A placeholder to be shown has no kind. -/
  | noKind
deriving DecidableEq, Repr

/-- The reason that is told. -/
def ServiceFault.message : ServiceFault → String
  | .notFinite => "Out of range float values are not JSON compliant"
  | .notEncodable => "surrogates not allowed"
  | .notText => "Input should be a valid string, unable to parse raw data as a unicode string"
  | .noKind => "'NoneType' object has no attribute 'value'"

namespace Reply

def detail (status : Nat) (text : String) : Reply :=
  .document status (.object [("detail", .string text)])

section Fields

variable (takes : Text → Bool)

/-- A text in an answer whose fields take some texts. -/
def taken (text : Text) : Except ServiceFault Json :=
  if takes text then .ok (.string (String.ofList text)) else .error .notText

/-- A failure that the request is to blame for. -/
def refused (r : Report) : Except ServiceFault Reply := do
  let error ← taken takes r.kind.name.toList
  let detail ← taken takes r.message.toList
  pure (.document 400 (.object [("success", .bool false), ("error", error), ("detail", detail)]))

def ofError : CallError → Except ServiceFault Reply
  | .escaper e => refused takes e.report
  | .compile (.refusal r) => refused takes r.report
  | .compile e => .ok (detail 500 e.message)
  | .settings e => .ok (detail 500 e.message)

def placeholder (p : Placeholder) : Except ServiceFault Json :=
  match p.kind with
  | none => .error .noKind
  | some kind => do
    let token ← taken takes p.token
    let kind ← taken takes kind.name.toList
    pure (.object [("token", token), ("kind", kind), ("position", .int p.position),
      ("offset", .int p.start)])

/-- The answer to a request that compiles. -/
def compilation (c : Compilation) : Except ServiceFault Reply := do
  let placeholders ← c.placeholders.mapM (placeholder takes)
  let query ← taken takes c.query
  pure (.document 200 (.object [("success", .bool true), ("query", query),
    ("placeholder_count", .int c.placeholderCount), ("placeholders", .array placeholders),
    ("blocks_kept", .int c.blocksKept), ("blocks_elided", .int c.blocksElided)]))

end Fields

/-- What the service says of itself. -/
def description : Json :=
  .object [("name", .string "querybinder API"), ("version", .string version),
    ("description", .string "Typed placeholder binding for SQL query templates"),
    ("docs", .string "/docs"),
    ("endpoints", .object [("compile", .string Endpoint.compile.path),
      ("specifiers", .string Endpoint.specifiers.path), ("health", .string Endpoint.health.path)])]

def specifierList : Json :=
  .array (SpecifierTable.standard.specifiers.map fun s =>
    .object [("token", .string (String.ofList s.token)),
      ("kind", Report.optional (s.kind.map Kind.name)), ("description", .string s.description)])

/-- A refused request is told the issues along with the data they are about. -/
def rejected (r : CompileRequest.Rejection) : Except ServiceFault Reply :=
  if !Json.areFinite r.subjects then .error .notFinite
  else if !Json.areEncodable r.subjects then .error .notEncodable
  else .ok (.invalid r.issues)

def component (isHealthy : Bool) : Json := .string (if isHealthy then "healthy" else "unavailable")

/-- The parts of the service and whether each does its work. -/
def healthReport (escaper compiler : Bool) : Json :=
  .object [("status", .string (if escaper && compiler then "healthy" else "degraded")),
    ("version", .string version),
    ("components", .object [("escaper", component escaper), ("compiler", component compiler)])]

end Reply

/-- What the service leaves to others: finding what is at a path, reading what is sent, and checking
what is to be sent. -/
structure Framework where
  find? : String → Option Endpoint
  /-- Is a page about the service at a path? -/
  isPage : String → Bool
  read : Option Text → Except CompileRequest.Rejection CompileRequest
  /-- Does a field of an answer take a text? -/
  takes : Text → Bool
  reject : CompileRequest.Rejection → Except ServiceFault Reply

/-- The framework that the service runs with. -/
def Framework.standard : Framework where
  find? := Endpoint.find?
  isPage := Endpoint.isPage
  read := CompileRequest.read
  takes := Text.isEncodable
  reject := Reply.rejected

namespace Configuration

/-- Starts a service: settings are loaded and logging is set up. -/
def startService (c : Configuration) : Configuration × Except SetupError Unit :=
  let (c, _, outcome) := c.setUpLogging {} none
  (c, outcome)

def checkHealth (c : Configuration) : Configuration × Reply :=
  let (c, escaper) := c.escaper none [] .backslash
  let (c, query) := c.compileQuery (some .mysql) "SELECT ?d".toList (.list [.int 1])
  (c, .document 200 (Reply.healthReport escaper.toBool query.toBool))

/-- What comes of a request; the answer is put together when the compiler is done. -/
def compileRequest (c : Configuration) (takes : Text → Bool) (r : CompileRequest) :
    Configuration × Except ServiceFault Reply :=
  match c.escaper r.escaper [] .backslash with
  | (c, .error e) => (c, Reply.ofError takes e)
  | (c, .ok escaper) =>
    match c.compiler (some escaper) .standard none with
    | (c, .error e) => (c, Reply.ofError takes e)
    | (c, .ok compiler) =>
      match (compiler.compile r.template.toList (Json.valuesOf r.args)).result with
      | .ok compilation => (c, Reply.compilation takes compilation)
      | .error e => (c, Reply.ofError takes (.compile e))

def answer (c : Configuration) (web : Framework) (r : Request) :
    Configuration × Except ServiceFault Reply :=
  let notAllowed := Reply.detail 405 "Method Not Allowed"
  match web.find? r.path with
  | none =>
    (c, .ok (if web.isPage r.path && r.method ≠ .get then notAllowed
      else .detail 404 "Not Found"))
  | some endpoint =>
    if r.method ≠ endpoint.method then (c, .ok notAllowed)
    else match endpoint with
      | .about => (c, .ok (.document 200 Reply.description))
      | .specifiers => (c, .ok (.document 200 Reply.specifierList))
      | .health =>
        let (c, reply) := c.checkHealth
        (c, .ok reply)
      | .compile =>
        match web.read r.body with
        | .ok request => c.compileRequest web.takes request
        | .error e => (c, web.reject e)

/-- The answers to requests one after another, unless the service breaks down. -/
def answerAll (c : Configuration) (web : Framework) :
    List Request → Except ServiceFault (List Reply)
  | [] => .ok []
  | r :: rest => do
    let (c, outcome) := c.answer web r
    let reply ← outcome
    let replies ← c.answerAll web rest
    pure (reply :: replies)

end Configuration
end QueryTemplate
