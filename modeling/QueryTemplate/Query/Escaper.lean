import QueryTemplate.Query.Refusal

/-! Escapers, and computations that keep account of what was escaped. -/
namespace QueryTemplate

/-- How a server wants quotation marks inside a literal. -/
inductive Quoting where
  /-- With a backslash before them. -/
  | backslash
  /-- Doubled, a backslash being a character as any other. -/
  | doubled
deriving DecidableEq, Repr

namespace Quoting

def escapeChar : Quoting → Char → Text
  | .backslash, c =>
    if c == '\x00' then ['\\', '0']
    else if c == '\n' then ['\\', 'n']
    else if c == '\r' then ['\\', 'r']
    else if c == '\x1a' then ['\\', 'Z']
    else if c == '"' || c == '\'' || c == '\\' then ['\\', c]
    else [c]
  | .doubled, c => if c == '\'' then ['\'', '\''] else [c]

def escape (q : Quoting) (raw : Text) : Text := raw.flatMap q.escapeChar

end Quoting

/-- Makes text safe to stand between quotation marks. -/
structure Escaper where
  /-- The name it is asked for by. -/
  name : String
  /-- What it is called when shown. -/
  label : String
  description : String
  escape : Text → Text

namespace Escaper

def mysql : Escaper :=
  ⟨"mysql", "MySQLEscaper", "PyMySQL string escaping, no connection required",
    Quoting.backslash.escape⟩

/-- Escapes as the server of a connection wants it at the time. -/
def connection (q : Quoting) : Escaper :=
  ⟨"connection", "ConnectionEscaper", "Escaping through an open PyMySQL connection", q.escape⟩

def shown (e : Escaper) : String := e.label ++ "(name=" ++ quotedString e.name ++ ")"

end Escaper

/-- The outcome of a computation that escapes: the raw strings handed to the escaper, in order,
and the value or the error it ended with. -/
structure Escaping (α : Type) where
  raw : List Text
  result : Except CompileError α

namespace Escaping

/-- Escapes one string. -/
def escape (e : Escaper) (raw : Text) : Escaping Text := ⟨[raw], .ok (e.escape raw)⟩

/-- Ends with an error, having escaped nothing. -/
def fail {α : Type} (error : CompileError) : Escaping α := ⟨[], .error error⟩

def refuse {α : Type} (r : Refusal) : Escaping α := fail (.refusal r)

def andThen {α β : Type} (x : Escaping α) (f : α → Escaping β) : Escaping β :=
  match x.result with
  | .ok a => ⟨x.raw ++ (f a).raw, (f a).result⟩
  | .error error => ⟨x.raw, .error error⟩

instance : Monad Escaping where
  pure a := ⟨[], .ok a⟩
  bind := andThen

@[simp] theorem raw_pure {α : Type} (a : α) : (pure a : Escaping α).raw = [] := rfl

@[simp] theorem result_pure {α : Type} (a : α) : (pure a : Escaping α).result = .ok a := rfl

@[simp] theorem raw_fail {α : Type} (e : CompileError) : (fail e : Escaping α).raw = [] := rfl

@[simp] theorem result_fail {α : Type} (e : CompileError) :
    (fail e : Escaping α).result = .error e := rfl

theorem bind_of_ok {α β : Type} {x : Escaping α} {a : α} (h : x.result = .ok a)
    (f : α → Escaping β) : x >>= f = ⟨x.raw ++ (f a).raw, (f a).result⟩ := by
  change andThen x f = _
  simp [andThen, h]

theorem bind_of_error {α β : Type} {x : Escaping α} {e : CompileError}
    (h : x.result = .error e) (f : α → Escaping β) : x >>= f = ⟨x.raw, .error e⟩ := by
  change andThen x f = _
  simp [andThen, h]

end Escaping
end QueryTemplate
