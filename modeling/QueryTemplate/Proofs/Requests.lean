import Mathlib.Data.List.Forall2
import QueryTemplate.Proofs.Commands
import QueryTemplate.Proofs.Encoding
import QueryTemplate.Service.Answer

/-! What the compiler makes of a request, and what the service answers. -/
namespace QueryTemplate

/-- How a failure that the caller is to blame for is reported. -/
def CallError.report? : CallError → Option Report
  | .escaper e => some e.report
  | .compile (.refusal r) => some r.report
  | _ => none

/-- The failures with a report: an escaper that is not to be had, and a refusal. -/
theorem CallError.of_report? {e : CallError} {report : Report} (h : e.report? = some report) :
    (∃ e', e = .escaper e' ∧ report = e'.report) ∨
      ∃ r, e = .compile (.refusal r) ∧ report = r.report := by
  cases e with
  | settings e => cases h
  | escaper e' => exact Or.inl ⟨e', rfl, (Option.some.inj h).symm⟩
  | compile e =>
    cases e with
    | refusal r => exact Or.inr ⟨r, rfl, (Option.some.inj h).symm⟩
    | defect d => cases h
    | notItems name => cases h

theorem SpecifierTable.exists_kind_of_mem_scan {template : Text} {p : Placeholder}
    (hp : p ∈ standard.scan template) : ∃ k, p.kind = some k := by
  obtain ⟨-, -, -, -, hkind⟩ := mem_scan hp
  obtain ⟨s, hs, -, hget, -⟩ := exists_standard_of_mem_scan hp
  obtain ⟨k, hk⟩ := Option.isSome_iff_exists.mp (standard_kind_isSome s hs)
  exact ⟨k, by rw [hkind, kind?, hget, Option.bind_some, hk]⟩

section Leaves

/-! Documents that are integers or strings can be compared. -/

def Json.leaf? : Json → Option (Int ⊕ String)
  | .int n => some (.inl n)
  | .string s => some (.inr s)
  | _ => none

def Json.ofLeaf : Int ⊕ String → Json
  | .inl n => .int n
  | .inr s => .string s

theorem Json.eq_of_leaf? {j : Json} {l : Int ⊕ String} (h : j.leaf? = some l) : j = ofLeaf l := by
  cases j with
  | int n =>
    obtain rfl := Option.some.inj h
    rfl
  | string s =>
    obtain rfl := Option.some.inj h
    rfl
  | null | bool _ | float _ | array _ | object _ => cases h

theorem Json.eq_map_of_mapM {js : List Json} {ls : List (Int ⊕ String)}
    (h : js.mapM Json.leaf? = some ls) : js = ls.map ofLeaf := by
  induction js generalizing ls with
  | nil =>
    obtain rfl := Option.some.inj h
    rfl
  | cons j js ih =>
    rw [List.mapM_cons] at h
    obtain ⟨l, hl, hrest⟩ := Option.bind_eq_some_iff.1 h
    obtain ⟨rest, hls, hcons⟩ := Option.bind_eq_some_iff.1 hrest
    obtain rfl := Option.some.inj hcons
    rw [List.map_cons, ← ih hls, Json.eq_of_leaf? hl]

theorem Json.read_of_leaf? {text : Text} {l : Int ⊕ String}
    (h : (Json.read text).toOption.bind Json.leaf? = some l) : Json.read text = .ok (ofLeaf l) := by
  obtain ⟨j, hj, hleaf⟩ := Option.bind_eq_some_iff.1 h
  rw [eq_ok_of_toOption hj, Json.eq_of_leaf? hleaf]

/-- The parts of a request whose arguments are integers and strings, which can be compared. -/
def CompileRequest.parts? (r : CompileRequest) :
    Option (String × List (Int ⊕ String) × Option String) :=
  (r.args.mapM Json.leaf?).map fun args => (r.template, args, r.escaper)

theorem CompileRequest.read_of_parts? {body : Option Text} {template : String}
    (args : List (Int ⊕ String)) {escaper : Option String}
    (h : (read body).toOption.bind parts? = some (template, args, escaper)) :
    read body = .ok ⟨template, args.map .ofLeaf, escaper⟩ := by
  obtain ⟨r, hr, hparts⟩ := Option.bind_eq_some_iff.1 h
  obtain ⟨found, hfound, heq⟩ := Option.map_eq_some_iff.1 hparts
  obtain ⟨rfl, rfl, rfl⟩ : r.template = template ∧ found = args ∧ r.escaper = escaper := by
    simpa using heq
  rw [eq_ok_of_toOption hr, ← Json.eq_map_of_mapM hfound]

end Leaves

namespace CompileRequest

variable {r : CompileRequest} {s : Settings}

/-- What the compiler of the settings, with the escaper that is asked for, makes of a request. -/
def outcome (r : CompileRequest) (s : Settings) : Except CallError Compilation :=
  match s.compilerFor r.escaper with
  | .error e => .error (.escaper e)
  | .ok c => (c.compile r.template.toList (Json.valuesOf r.args)).result.mapError .compile

/-- What compiling a request logs. -/
def log (r : CompileRequest) (s : Settings) : List String :=
  match s.compilerFor r.escaper with
  | .error _ => []
  | .ok c => (c.compile r.template.toList (Json.valuesOf r.args)).log

theorem compilerFor_table {c : Compiler} (h : s.compilerFor r.escaper = .ok c) :
    c.table = .standard := by
  unfold Settings.compilerFor at h
  cases hnamed : Escaper.named (r.escaper.getD s.compiler.escaper) with
  | error e =>
    rw [hnamed] at h
    cases h
  | ok e =>
    rw [hnamed] at h
    obtain rfl := Except.ok.inj h
    rfl

/-- A request fails for want of its escaper, or as the compiler with the standard table ends. -/
theorem outcome_cases (r : CompileRequest) (s : Settings) :
    (∃ e, r.outcome s = .error (.escaper e)) ∨
      ∃ c : Compiler, c.table = .standard ∧ r.outcome s =
        (c.compile r.template.toList (Json.valuesOf r.args)).result.mapError .compile := by
  unfold outcome
  cases hc : s.compilerFor r.escaper with
  | error e => exact Or.inl ⟨e, rfl⟩
  | ok c => exact Or.inr ⟨c, compilerFor_table hc, rfl⟩

/-- Every failure is one that the caller is to blame for. -/
theorem exists_report_of_error {e : CallError} (h : r.outcome s = .error e) :
    ∃ report, e.report? = some report := by
  rcases r.outcome_cases s with ⟨e', he⟩ | ⟨c, htable, hresult⟩
  · obtain rfl := Except.error.inj (h.symm.trans he)
    exact ⟨e'.report, rfl⟩
  · have hends := Compiler.compile_ends c.escaper c.strict r.template.toList (Json.valuesOf r.args)
    rw [← htable] at hends
    rcases hends.ok_or_refused with ⟨done, hdone⟩ | ⟨f, hf⟩
    · rw [hdone, h] at hresult
      cases hresult
    · rw [hf, h] at hresult
      obtain rfl := Except.error.inj hresult
      exact ⟨f.report, rfl⟩

/-- The message of a failure tells nothing that cannot be written. -/
theorem isEncodable_of_error {e : CallError} {report : Report}
    (htemplate : Text.isEncodable r.template.toList = true)
    (hname : Text.isEncodable (r.escaper.getD s.compiler.escaper).toList = true)
    (h : r.outcome s = .error e) (hreport : e.report? = some report) :
    Text.isEncodable report.message.toList = true := by
  unfold outcome Settings.compilerFor at h
  cases hnamed : Escaper.named (r.escaper.getD s.compiler.escaper) with
  | error e' =>
    rw [hnamed] at h
    obtain rfl := Except.error.inj h
    obtain rfl := Option.some.inj hreport
    exact Escaper.isEncodable_message hnamed hname
  | ok escaper =>
    rw [hnamed] at h
    dsimp only [Except.map] at h
    cases hcompiled : (Compiler.compile _ r.template.toList (Json.valuesOf r.args)).result with
    | ok done =>
      rw [hcompiled] at h
      cases h
    | error error =>
      rw [hcompiled] at h
      obtain rfl := Except.error.inj h
      rcases CallError.of_report? hreport with ⟨e', he', -⟩ | ⟨f, hf, rfl⟩
      · cases he'
      · obtain rfl := CallError.compile.inj hf
        rw [Refusal.report_message]
        exact Compiler.isEncodable_message htemplate Json.plain_of_mem_valuesOf hcompiled

theorem placeholder_of_outcome {done : Compilation} (h : r.outcome s = .ok done) {p : Placeholder}
    (hp : p ∈ done.placeholders) : (∃ k, p.kind = some k) ∧ p.token.isEncodable = true := by
  rcases r.outcome_cases s with ⟨e, he⟩ | ⟨c, htable, hresult⟩
  · cases h.symm.trans he
  · rw [h] at hresult
    cases hcompiled : (c.compile r.template.toList (Json.valuesOf r.args)).result with
    | error e =>
      rw [hcompiled] at hresult
      cases hresult
    | ok found =>
      rw [hcompiled] at hresult
      obtain rfl := Except.ok.inj hresult
      obtain ⟨-, text, -, rfl⟩ := Compiler.exists_substituted hcompiled
      have hscan : p ∈ SpecifierTable.standard.scan r.template.toList := htable ▸ hp
      exact ⟨SpecifierTable.exists_kind_of_mem_scan hscan,
        SpecifierTable.isEncodable_token_of_mem_scan hscan⟩

end CompileRequest

namespace Reply

/-- An answer shows a placeholder: its token, its kind, its number and where it starts. -/
def Shows (p : Placeholder) (shown : Json) : Prop :=
  ∃ k, p.kind = some k ∧ shown = .object [("token", .string (String.ofList p.token)),
    ("kind", .string k.name), ("position", .int p.position), ("offset", .int p.start)]

section Fields

variable {takes : Text → Bool} (htakes : ∀ text, takes text = text.isEncodable)

include htakes

theorem taken_of_isEncodable {text : Text} (h : text.isEncodable = true) :
    taken takes text = .ok (.string (String.ofList text)) := by
  rw [taken, htakes, if_pos h]

/-- A placeholder as it is shown if it has a kind and its token can be written. -/
theorem placeholder_of_kind {p : Placeholder} {k : Kind} (hk : p.kind = some k)
    (htoken : p.token.isEncodable = true) :
    placeholder takes p = .ok (.object [("token", .string (String.ofList p.token)),
      ("kind", .string k.name), ("position", .int p.position), ("offset", .int p.start)]) := by
  have hname : Text.isEncodable k.name.toList = true := by cases k <;> decide
  unfold placeholder
  rw [hk]
  dsimp only
  rw [taken_of_isEncodable htakes htoken, taken_of_isEncodable htakes hname, String.ofList_toList]
  rfl

/-- The answer to a request that compiles, if its query can be written; else there is none. -/
theorem compilation_of_takes {done : Compilation}
    (h : ∀ p ∈ done.placeholders, (∃ k, p.kind = some k) ∧ p.token.isEncodable = true) :
    ∃ shown, List.Forall₂ Shows done.placeholders shown ∧
      compilation takes done = if done.query.isEncodable then
        .ok (.document 200 (.object [("success", .bool true),
          ("query", .string (String.ofList done.query)),
          ("placeholder_count", .int done.placeholderCount), ("placeholders", .array shown),
          ("blocks_kept", .int done.blocksKept), ("blocks_elided", .int done.blocksElided)]))
      else .error .notText := by
  let shown (p : Placeholder) : Json := .object [("token", .string (String.ofList p.token)),
    ("kind", .string ((p.kind.map Kind.name).getD "")), ("position", .int p.position),
    ("offset", .int p.start)]
  refine ⟨done.placeholders.map shown, ?_, ?_⟩
  · rw [List.forall₂_map_right_iff, List.forall₂_same]
    intro p hp
    obtain ⟨⟨k, hk⟩, -⟩ := h p hp
    exact ⟨k, hk, by simp only [shown, hk]; rfl⟩
  · have hplaceholders : done.placeholders.mapM (placeholder takes) =
        .ok (done.placeholders.map shown) := by
      refine mapM_of_ok shown fun p hp => ?_
      obtain ⟨⟨k, hk⟩, htoken⟩ := h p hp
      rw [placeholder_of_kind htakes hk htoken]
      simp only [shown, hk]
      rfl
    unfold compilation
    rw [hplaceholders, taken, htakes]
    split <;> rfl

/-- A failure with a report is answered as refused. -/
theorem ofError_of_report {e : CallError} {report : Report} (h : e.report? = some report)
    (hmessage : Text.isEncodable report.message.toList = true) :
    ofError takes e = .ok (.document 400 (.object [("success", .bool false),
      ("error", .string report.kind.name), ("detail", .string report.message)])) := by
  have hrefused : ofError takes e = refused takes report := by
    rcases CallError.of_report? h with ⟨e', rfl, rfl⟩ | ⟨r, rfl, rfl⟩ <;> rfl
  have hname : Text.isEncodable report.kind.name.toList = true := by cases report.kind <;> decide
  rw [hrefused, refused, taken_of_isEncodable htakes hname, taken_of_isEncodable htakes hmessage,
    String.ofList_toList, String.ofList_toList]
  rfl

end Fields

end Reply

namespace Configuration

variable {c : Configuration} {s : Settings}

theorem startService_of_known (hs : c.get.2 = .ok s) (hl : s.logging.level?.isSome) :
    c.startService = (c.get.1, .ok ()) := by
  unfold startService
  rw [setUpLogging_of_known hs hl]

/-- What a configuration that loads makes of a request. -/
theorem compileRequest_of_loads (hs : c.get.2 = .ok s) (takes : Text → Bool) (r : CompileRequest) :
    (c.compileRequest takes r).2 = match r.outcome s with
      | .ok done => Reply.compilation takes done
      | .error e => Reply.ofError takes e := by
  obtain ⟨c', hc', hescaper⟩ := escaper_of_loads hs r.escaper
  unfold compileRequest CompileRequest.outcome Settings.compilerFor
  rw [hescaper]
  cases Escaper.named (r.escaper.getD s.compiler.escaper) with
  | error e => rfl
  | ok e =>
    dsimp only [Except.map]
    rw [compiler_of_loads hc' e]
    dsimp only
    cases (Compiler.compile _ r.template.toList (Json.valuesOf r.args)).result <;> rfl

theorem answer_compile {web : Framework} (hfind : web.find? Endpoint.compile.path = some .compile)
    {body : Option Text} {r : CompileRequest} (h : web.read body = .ok r) :
    (c.answer web ⟨.post, Endpoint.compile.path, body⟩).2 = (c.compileRequest web.takes r).2 := by
  simp only [answer, hfind, h]
  rfl

end Configuration
end QueryTemplate
