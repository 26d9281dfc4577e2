import QueryTemplate.Settings.Cache

/-! What the calls that read the settings make of them. -/
namespace QueryTemplate

theorem eq_ok_of_toOption {ε α : Type} {x : Except ε α} {a : α} (h : x.toOption = some a) :
    x = .ok a := by
  cases x with
  | ok b => exact congrArg Except.ok (Option.some.inj h)
  | error e => cases h

/-- The compiler that settings ask for: with the escaper of a name, or else the configured one, and
the standard table. -/
def Settings.compilerFor (s : Settings) (name : Option String) : Except EscaperError Compiler :=
  (Escaper.named (name.getD s.compiler.escaper)).map fun e => ⟨e, .standard, s.compiler.strict⟩

/-- What the settings make of a call that only says what to compile. -/
def Settings.query (s : Settings) (template : Text) (args : Value) : Except CallError Text :=
  match s.compilerFor none with
  | .error e => .error (.escaper e)
  | .ok c =>
    match (c.compileWith template args).result with
    | .ok r => .ok r.query
    | .error e => .error (.compile e)

namespace Configuration

variable {c : Configuration} {s : Settings}

theorem get_snd (c : Configuration) : c.get.2 = match c.cached with
    | some s => .ok s
    | none => c.load := by
  unfold get
  cases c.cached with
  | some s => rfl
  | none => cases c.load <;> rfl

/-- Settings that were got are kept, and nothing else changes. -/
theorem get_fst (c : Configuration) : c.get.1 = { c with cached := c.get.2.toOption } := by
  obtain ⟨environment, file, cached, loads⟩ := c
  unfold get
  cases cached with
  | some s => rfl
  | none => cases load _ <;> rfl

theorem get_get (h : c.get.2 = .ok s) : c.get.1.get = (c.get.1, .ok s) := by
  rw [get_fst, h]
  rfl

section Escaper

variable {arguments : List String} {quoting : Quoting}

theorem escaper_none (c : Configuration) :
    c.escaper none arguments quoting = (c.get.1, match c.get.2 with
      | .ok s => (Escaper.ask s.compiler.escaper arguments quoting).mapError .escaper
      | .error e => .error (.settings e)) := rfl

theorem escaper_some (c : Configuration) (name : String) :
    c.escaper (some name) arguments quoting =
      (c, (Escaper.ask name arguments quoting).mapError .escaper) := rfl

end Escaper

theorem compiler_none (c : Configuration) :
    c.compiler none .standard none = (c.get.1, match c.get.2 with
      | .ok s => (s.compilerFor none).mapError .escaper
      | .error e => .error (.settings e)) := by
  unfold compiler Settings.compilerFor
  dsimp only
  cases c.get.2 with
  | error e => rfl
  | ok s =>
    dsimp only [Option.getD_none]
    cases Escaper.named s.compiler.escaper <;> rfl

theorem compileQuery_none (c : Configuration) (template : Text) (args : Value) :
    c.compileQuery none template args = (c.get.1, match c.get.2 with
      | .ok s => s.query template args
      | .error e => .error (.settings e)) := by
  unfold compileQuery Settings.query
  rw [compiler_none]
  cases c.get.2 with
  | error e => rfl
  | ok s =>
    dsimp only
    cases s.compilerFor none <;> rfl

/-- Settings that load are there for the next call too. -/
theorem get_snd_of_loads (h : c.get.2 = .ok s) : c.get.1.get.2 = .ok s :=
  congrArg Prod.snd (get_get h)

theorem escaper_of_loads (h : c.get.2 = .ok s) (name : Option String) :
    ∃ c', c'.get.2 = .ok s ∧ c.escaper name [] .backslash =
      (c', match Escaper.named (name.getD s.compiler.escaper) with
        | .ok e => .ok e
        | .error e => .error (.escaper e)) := by
  cases name with
  | some name =>
    refine ⟨c, h, ?_⟩
    rw [escaper_some, Option.getD_some, Escaper.named]
    cases Escaper.ask name [] .backslash <;> rfl
  | none =>
    refine ⟨c.get.1, get_snd_of_loads h, ?_⟩
    rw [escaper_none, h, Option.getD_none, Escaper.named]
    dsimp only
    cases Escaper.ask s.compiler.escaper [] .backslash <;> rfl

theorem compiler_of_loads (h : c.get.2 = .ok s) (e : Escaper) :
    c.compiler (some e) .standard none = (c.get.1, .ok ⟨e, .standard, s.compiler.strict⟩) := by
  simp [compiler, h]

end Configuration
end QueryTemplate
