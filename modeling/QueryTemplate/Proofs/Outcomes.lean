import QueryTemplate.Proofs.Marks
import QueryTemplate.Proofs.Recording

/-! How a compile call ends, and what was escaped by then. -/
namespace QueryTemplate

/-- Too few arguments, or for a strict call too many. -/
def Miscounted (strict : Bool) (expected received : Nat) : Prop :=
  received < expected ∨ strict = true ∧ expected < received

theorem countAccepted_eq_false_iff {strict : Bool} {expected received : Nat} :
    countAccepted strict expected received = false ↔ Miscounted strict expected received := by
  cases strict with
  | false => simp [countAccepted, Miscounted]
  | true =>
    simp only [countAccepted, Miscounted, Bool.and_eq_false_iff, Bool.not_eq_false',
      Bool.true_and, decide_eq_false_iff_not, decide_eq_true_eq, true_and]
    omega

theorem Refusal.OfValue.token_eq {r : Refusal} {token token' : Text} (h : r.OfValue token)
    (h' : r.OfValue token') : token = token' := by
  cases r with
  | invalidValue t _ | invalidType _ t => exact h.symm.trans h'
  | unknownSpecifiers _ _ | argumentCount _ _ _ => exact h.elim

section Binding

variable {strict : Bool} {template : Text} {args : List Value}

theorem exists_enqueue {ps : List Placeholder} (h : ∀ p ∈ ps, p.position < args.length)
    (qs : Queues) : ∃ qs', enqueue args ps qs = .ok qs' := by
  induction ps generalizing qs with
  | nil => exact ⟨qs, rfl⟩
  | cons p ps ih =>
    obtain ⟨hp, hps⟩ := List.forall_mem_cons.1 h
    rw [enqueue, List.getElem?_eq_getElem hp]
    exact ih hps _

theorem bindArguments_of_miscounted {ps : List Placeholder}
    (h : Miscounted strict ps.length args.length) :
    bindArguments strict template ps args =
      .error (.refusal (.argumentCount ps.length args.length template)) := by
  rw [bindArguments, countAccepted_eq_false_iff.2 h]
  rfl

theorem bindArguments_of_counted {ps : List Placeholder}
    (h : ¬ Miscounted strict ps.length args.length) :
    bindArguments strict template ps args = enqueue args ps [] := by
  have hcount : countAccepted strict ps.length args.length = true := by
    rw [← Bool.not_eq_false, countAccepted_eq_false_iff]
    exact h
  rw [bindArguments, if_pos hcount]

/-- The scanner numbers no placeholder beyond the arguments, if there are enough of them. -/
theorem exists_bindArguments {t : SpecifierTable}
    (h : ¬ Miscounted strict (t.scan template).length args.length) :
    ∃ qs, bindArguments strict template (t.scan template) args = .ok qs := by
  have henough : (t.scan template).length ≤ args.length := by
    by_contra hfew
    exact h (Or.inl (by omega))
  rw [bindArguments_of_counted h]
  refine exists_enqueue (fun p hp => ?_) []
  exact Nat.lt_of_lt_of_le (SpecifierTable.position_lt_of_mem_scan hp) henough

end Binding

namespace Compiler

open Placeholder (visits)
open SpecifierTable (standard)

variable {c : Compiler} {template : Text}

theorem validate_eq_error (h : c.table.unknown template ≠ []) :
    c.validate template =
      .error (.refusal (.unknownSpecifiers (c.table.unknown template) template)) := by
  unfold validate
  split
  next hnone => exact absurd hnone h
  next => rfl

theorem compile_of_invalid {error : CompileError} (h : c.validate template = .error error)
    (args : List Value) :
    c.compile template args = ⟨c.validationLog template, [], .error error⟩ := by
  rw [compile, h]

theorem compile_of_valid (h : c.validate template = .ok ()) (args : List Value) :
    (c.compile template args).escaped = (c.substituted template args).raw ∧
      (c.compile template args).result =
        c.resolved template <$> (c.substituted template args).result := by
  rw [compile, h]
  cases hr : (c.substituted template args).result with
  | error error => simp [hr]
  | ok text => simp [hr]

theorem substituted_of_miscounted {args : List Value}
    (h : Miscounted c.strict (c.table.scan template).length args.length) :
    c.substituted template args =
      .fail (.refusal (.argumentCount (c.table.scan template).length args.length template)) := by
  rw [substituted, bindArguments_of_miscounted h]

/-- With as many arguments as there may be, the substitution is what the passes make of the
segments, each placeholder taking the argument at its position. -/
theorem substituted_of_counted {args : List Value}
    (h : ¬ Miscounted c.strict (c.table.scan template).length args.length) :
    c.substituted template args =
      passes c.escaper (argumentOf args) c.table.specifiers
        (Segment.split template (c.table.scan template)) >>= joinFilled := by
  obtain ⟨qs, hqs⟩ := exists_bindArguments h
  rw [substituted, hqs]
  exact SpecifierTable.substitute_eq_passes (SpecifierTable.enqueue_of_bind hqs)

/-- A substitution yields a text iff the arguments are as many as there may be and each has a text,
which then stands in the place of its placeholder. -/
theorem substituted_eq_ok_iff (htable : c.table = standard) {args : List Value} {text : Text} :
    (c.substituted template args).result = .ok text ↔
      ¬ Miscounted c.strict (standard.scan template).length args.length ∧
        ∃ w : Placeholder → Text,
          (∀ p ∈ standard.scan template,
            (standard.formatted c.escaper args p).result = .ok (w p)) ∧
          text = template.edited (Placeholder.edits w (standard.scan template)) := by
  by_cases hcount : Miscounted c.strict (standard.scan template).length args.length
  · have hfail := substituted_of_miscounted (c := c) (htable ▸ hcount)
    rw [hfail]
    exact iff_of_false (fun h => nomatch h) fun h => h.1 hcount
  obtain ⟨qs, hqs⟩ := exists_bindArguments hcount
  have hbind : c.substituted template args =
      (standard.substitute c.escaper template (standard.scan template) qs).2 := by
    rw [substituted, htable, hqs]
  have hq := SpecifierTable.enqueue_of_bind hqs
  rw [hbind]
  constructor
  · intro htext
    -- had an argument been refused, there would be no text
    have hall : ∀ p ∈ standard.scan template, ∃ text,
        (standard.formatted c.escaper args p).result = .ok text := by
      intro p hp
      cases hp' : (standard.formatted c.escaper args p).result with
      | ok text => exact ⟨text, rfl⟩
      | error error =>
        obtain ⟨-, -, error, -, herror, -⟩ :=
          SpecifierTable.substitute_of_refused hq ⟨p, hp, error, hp'⟩
        exact absurd (htext.symm.trans herror) (by simp)
    choose! w hw using hall
    have hfilled := (SpecifierTable.substitute_of_accepted hq hw).1
    exact ⟨hcount, w, hw, Except.ok.inj (htext.symm.trans hfilled)⟩
  · rintro ⟨-, w, hw, rfl⟩
    exact (SpecifierTable.substitute_of_accepted hq hw).1

theorem exists_substituted {args : List Value} {r : Compilation}
    (h : (c.compile template args).result = .ok r) :
    c.validate template = .ok () ∧ ∃ text, (c.substituted template args).result = .ok text ∧
      r = c.resolved template text := by
  cases hvalid : c.validate template with
  | error error =>
    rw [compile_of_invalid hvalid] at h
    exact absurd h (by simp)
  | ok _ =>
    have hresult := (compile_of_valid hvalid args).2
    cases htext : (c.substituted template args).result with
    | error error =>
      rw [htext] at hresult
      exact absurd (h.symm.trans hresult) (by simp)
    | ok text =>
      rw [htext] at hresult
      exact ⟨rfl, text, rfl, Except.ok.inj (h.symm.trans hresult)⟩

/-- A call that succeeds logs one line, which tells three numbers. -/
theorem log_of_ok {args : List Value} {r : Compilation}
    (h : (c.compile template args).result = .ok r) :
    (c.compile template args).log =
      [compiledLine r.placeholders.length r.blocks.length (r.blocks.countP (·.elided))] := by
  unfold compile at h ⊢
  split at h
  next => exact absurd h (by simp)
  dsimp only at h ⊢
  split at h
  next => exact absurd h (by simp)
  next =>
    obtain rfl := Except.ok.inj h
    rfl

/-- A call that fails logs what the validation of its template logs. -/
theorem log_of_error {args : List Value} {error : CompileError}
    (h : (c.compile template args).result = .error error) :
    (c.compile template args).log = c.validationLog template := by
  cases hvalid : c.validate template with
  | error _ => rw [compile_of_invalid hvalid]
  | ok _ =>
    have hnone : c.validationLog template = [] := by
      rw [validationLog, validate_eq_ok_iff.1 hvalid]
    unfold compile at h ⊢
    rw [hvalid] at h ⊢
    dsimp only at h ⊢
    split at h
    next => exact hnone.symm
    next => exact absurd h (by simp)

/-- How a call ends, and what it has escaped by then. -/
inductive Ends (e : Escaper) (strict : Bool) (template : Text) (args : List Value) (call : Call) :
    Prop
  | unknown (hunknown : standard.unknown template ≠ []) (hescaped : call.escaped = [])
    (hresult : call.result =
      .error (.refusal (.unknownSpecifiers (standard.unknown template) template)))
  | miscounted (hknown : standard.unknown template = [])
    (hcount : Miscounted strict (standard.scan template).length args.length)
    (hescaped : call.escaped = [])
    (hresult : call.result =
      .error (.refusal (.argumentCount (standard.scan template).length args.length template)))
  | compiled (hknown : standard.unknown template = [])
    (hcount : ¬ Miscounted strict (standard.scan template).length args.length)
    (hall : ∀ p ∈ standard.scan template, p.takes args = true)
    (hescaped : call.escaped =
      (visits standard.specifiers (standard.scan template)).flatMap (·.strings args))
    (r : Compilation) (hresult : call.result = .ok r)
  | refused (hknown : standard.unknown template = [])
    (hcount : ¬ Miscounted strict (standard.scan template).length args.length)
    (before after : List Placeholder) (p : Placeholder)
    (hvisits : visits standard.specifiers (standard.scan template) = before ++ p :: after)
    (hbefore : ∀ q ∈ before, q.takes args = true) (hp : p.takes args = false)
    (hescaped : call.escaped = before.flatMap (·.strings args) ++ p.stringsBefore args)
    (r : Refusal) (hr : r.OfValue p.token)
    (hformatted : (standard.formatted e args p).result = .error (.refusal r))
    (hresult : call.result = .error (.refusal r))

theorem compile_ends (e : Escaper) (strict : Bool) (template : Text) (args : List Value) :
    Ends e strict template args ((⟨e, standard, strict⟩ : Compiler).compile template args) := by
  let c : Compiler := ⟨e, standard, strict⟩
  by_cases hunknown : standard.unknown template = []
  case neg =>
    have hinvalid : c.validate template = .error (.refusal
        (.unknownSpecifiers (standard.unknown template) template)) := validate_eq_error hunknown
    have hcompile := compile_of_invalid hinvalid args
    exact .unknown hunknown (congrArg Call.escaped hcompile) (congrArg Call.result hcompile)
  have hvalid : c.validate template = .ok () := validate_eq_ok_iff.2 hunknown
  obtain ⟨hescaped, hresult⟩ := compile_of_valid hvalid args
  by_cases hcount : Miscounted strict (standard.scan template).length args.length
  · have hfail : c.substituted template args = .fail (.refusal (.argumentCount
        (standard.scan template).length args.length template)) := substituted_of_miscounted hcount
    rw [hfail] at hescaped hresult
    exact .miscounted hunknown hcount hescaped hresult
  obtain ⟨qs, hqs⟩ := exists_bindArguments hcount
  have hbind : c.substituted template args =
      (standard.substitute e template (standard.scan template) qs).2 := by
    rw [substituted, hqs]
  have hq := SpecifierTable.enqueue_of_bind hqs
  rw [hbind] at hescaped hresult
  cases hall : (visits standard.specifiers (standard.scan template)).all (·.takes args) with
  | true =>
    have htakes : ∀ p ∈ standard.scan template, p.takes args = true := fun p hp =>
      List.all_eq_true.1 hall p ((SpecifierTable.standard_visits_perm template).mem_iff.2 hp)
    obtain ⟨text, htext⟩ := SpecifierTable.substitute_of_all_taken (e := e) hq htakes
    rw [htext] at hescaped hresult
    exact .compiled hunknown hcount htakes hescaped _ hresult
  | false =>
    obtain ⟨before, p, after, hvisits, hbefore, hp⟩ := Format.exists_first_of_not_all hall
    obtain ⟨r, hr, hformatted, hrefused⟩ :=
      SpecifierTable.substitute_of_not_taken (e := e) hq hvisits hbefore hp
    rw [hrefused] at hescaped hresult
    exact .refused hunknown hcount before after p hvisits hbefore hp hescaped r hr hformatted
      hresult

namespace Ends

variable {e : Escaper} {strict : Bool} {args : List Value} {call : Call}

theorem ok_or_refused (h : Ends e strict template args call) :
    (∃ r, call.result = .ok r) ∨ ∃ r : Refusal, call.result = .error (.refusal r) := by
  cases h with
  | unknown _ _ hresult => exact Or.inr ⟨_, hresult⟩
  | miscounted _ _ _ hresult => exact Or.inr ⟨_, hresult⟩
  | compiled _ _ _ _ r hresult => exact Or.inl ⟨r, hresult⟩
  | refused _ _ _ _ _ _ _ _ _ r _ _ hresult => exact Or.inr ⟨r, hresult⟩

theorem unknown_iff (h : Ends e strict template args call) (tokens : List Text) (t : Text) :
    call.result = .error (.refusal (.unknownSpecifiers tokens t)) ↔
      standard.unknown template ≠ [] ∧ tokens = standard.unknown template ∧ t = template := by
  cases h with
  | unknown hunknown _ hresult =>
    rw [hresult]
    constructor
    · rintro ⟨⟩
      exact ⟨hunknown, rfl, rfl⟩
    · rintro ⟨-, rfl, rfl⟩
      rfl
  | miscounted hknown _ _ hresult => exact iff_of_false (by simp [hresult]) fun h => h.1 hknown
  | compiled hknown _ _ _ _ hresult => exact iff_of_false (by simp [hresult]) fun h => h.1 hknown
  | refused hknown _ _ _ _ _ _ _ _ r hvalue _ hresult =>
    refine iff_of_false (fun h => ?_) fun h => h.1 hknown
    rw [hresult] at h
    cases h
    exact hvalue.elim

theorem miscounted_iff (h : Ends e strict template args call) (n m : Nat) (t : Text) :
    call.result = .error (.refusal (.argumentCount n m t)) ↔
      standard.unknown template = [] ∧
        Miscounted strict (standard.scan template).length args.length ∧
        n = (standard.scan template).length ∧ m = args.length ∧ t = template := by
  cases h with
  | unknown hunknown _ hresult => exact iff_of_false (by simp [hresult]) fun h => hunknown h.1
  | miscounted hknown hcount _ hresult =>
    rw [hresult]
    constructor
    · rintro ⟨⟩
      exact ⟨hknown, hcount, rfl, rfl, rfl⟩
    · rintro ⟨-, -, rfl, rfl, rfl⟩
      rfl
  | compiled _ hcount _ _ _ hresult =>
    exact iff_of_false (by simp [hresult]) fun h => hcount h.2.1
  | refused _ hcount _ _ _ _ _ _ _ r hvalue _ hresult =>
    refine iff_of_false (fun h => ?_) fun h => hcount h.2.1
    rw [hresult] at h
    cases h
    exact hvalue.elim

theorem ok_iff (h : Ends e strict template args call) :
    (∃ r, call.result = .ok r) ↔ standard.unknown template = [] ∧
      ¬ Miscounted strict (standard.scan template).length args.length ∧
      ∀ p ∈ standard.scan template, p.takes args = true := by
  cases h with
  | unknown hunknown _ hresult => exact iff_of_false (by simp [hresult]) fun h => hunknown h.1
  | miscounted _ hcount _ hresult => exact iff_of_false (by simp [hresult]) fun h => h.2.1 hcount
  | compiled hknown hcount hall _ r hresult => exact iff_of_true ⟨r, hresult⟩ ⟨hknown, hcount, hall⟩
  | refused _ _ before after p hvisits _ hp _ _ _ _ hresult =>
    have hscan := SpecifierTable.mem_scan_of_visits hvisits p (by simp)
    refine iff_of_false (by simp [hresult]) fun h => ?_
    exact absurd (h.2.2 p hscan) (by simp [hp])

/-- A value is refused only where the placeholder does not take it. -/
theorem exists_not_taken (h : Ends e strict template args call) {r : Refusal} {token : Text}
    (hr : r.OfValue token) (hresult : call.result = .error (.refusal r)) :
    standard.unknown template = [] ∧
      ¬ Miscounted strict (standard.scan template).length args.length ∧
      ∃ p ∈ standard.scan template, p.token = token ∧ p.takes args = false := by
  cases h with
  | unknown _ _ hresult' =>
    rw [hresult'] at hresult
    cases hresult
    exact hr.elim
  | miscounted _ _ _ hresult' =>
    rw [hresult'] at hresult
    cases hresult
    exact hr.elim
  | compiled _ _ _ _ _ hresult' => exact absurd (hresult'.symm.trans hresult) (by simp)
  | refused hknown hcount before after p hvisits _ hp _ _ hvalue _ hresult' =>
    have hscan := SpecifierTable.mem_scan_of_visits hvisits p (by simp)
    rw [hresult'] at hresult
    cases hresult
    exact ⟨hknown, hcount, p, hscan, hvalue.token_eq hr, hp⟩

theorem escaped_of_unknown (h : Ends e strict template args call)
    (hunknown : standard.unknown template ≠ []) : call.escaped = [] := by
  cases h with
  | unknown _ hescaped _ => exact hescaped
  | miscounted hknown | compiled hknown | refused hknown => exact absurd hknown hunknown

theorem escaped_of_miscounted (h : Ends e strict template args call)
    (hcount : Miscounted strict (standard.scan template).length args.length) :
    call.escaped = [] := by
  cases h with
  | unknown _ hescaped _ => exact hescaped
  | miscounted _ _ hescaped _ => exact hescaped
  | compiled _ hcounted | refused _ hcounted => exact absurd hcount hcounted

theorem escaped_of_ok (h : Ends e strict template args call) {r : Compilation}
    (hr : call.result = .ok r) :
    call.escaped =
      (visits standard.specifiers (standard.scan template)).flatMap (·.strings args) := by
  cases h with
  | compiled _ _ _ hescaped _ _ => exact hescaped
  | unknown _ _ hresult => exact absurd (hr.symm.trans hresult) (by simp)
  | miscounted _ _ _ hresult => exact absurd (hr.symm.trans hresult) (by simp)
  | refused _ _ _ _ _ _ _ _ _ _ _ _ hresult => exact absurd (hr.symm.trans hresult) (by simp)

theorem escaped_of_refused (h : Ends e strict template args call) {qs : Queues}
    {error : CompileError} (hknown : standard.unknown template = [])
    (hqs : bindArguments strict template (standard.scan template) args = .ok qs)
    (herror : call.result = .error error) :
    ∃ before p after,
      visits standard.specifiers (standard.scan template) = before ++ p :: after ∧
      (∀ q ∈ before, ∃ text, (standard.formatted e args q).result = .ok text) ∧
      (standard.formatted e args p).result = .error error ∧
      call.escaped = before.flatMap (·.strings args) ++ p.stringsBefore args := by
  cases h with
  | unknown hunknown => exact absurd hknown hunknown
  | miscounted _ hcount =>
    exact absurd (hqs.symm.trans (bindArguments_of_miscounted hcount)) (by simp)
  | compiled _ _ _ _ _ hresult => exact absurd (herror.symm.trans hresult) (by simp)
  | refused _ _ before after p hvisits hbefore _ hescaped r _ hformatted hresult =>
    obtain rfl : error = .refusal r := Except.error.inj (herror.symm.trans hresult)
    refine ⟨before, p, after, hvisits, fun q hq => ?_, hformatted, hescaped⟩
    have hscan := SpecifierTable.mem_scan_of_visits hvisits q (List.mem_append_left _ hq)
    have hbound := SpecifierTable.enqueue_of_bind hqs
    obtain ⟨text, htext⟩ :=
      (SpecifierTable.decides_formatted (e := e) hscan hbound).ok (hbefore q hq)
    exact ⟨text, congrArg Escaping.result htext⟩

end Ends

/-- A call yields a query or refuses its template or an argument, and never fails in any other
way: the unknown specifiers are looked at first, then the number of arguments, then each of them. -/
theorem compile_result (e : Escaper) (strict : Bool) (template : Text) (args : List Value) :
    let ps := standard.scan template
    let unknown := standard.unknown template
    let miscounted := args.length < ps.length ∨ strict = true ∧ ps.length < args.length
    let result := ((⟨e, standard, strict⟩ : Compiler).compile template args).result
    ((∃ r, result = .ok r) ∨ ∃ r : Refusal, result = .error (.refusal r)) ∧
    (∀ tokens t, result = .error (.refusal (.unknownSpecifiers tokens t)) ↔
      unknown ≠ [] ∧ tokens = unknown ∧ t = template) ∧
    (∀ n m t, result = .error (.refusal (.argumentCount n m t)) ↔
      unknown = [] ∧ miscounted ∧ n = ps.length ∧ m = args.length ∧ t = template) ∧
    ((∃ r, result = .ok r) ↔
      unknown = [] ∧ ¬ miscounted ∧ ∀ p ∈ ps, p.takes args = true) ∧
    ∀ r token, Refusal.OfValue token r → result = .error (.refusal r) →
      unknown = [] ∧ ¬ miscounted ∧ ∃ p ∈ ps, p.token = token ∧ p.takes args = false := by
  have h := compile_ends e strict template args
  exact ⟨h.ok_or_refused, h.unknown_iff, h.miscounted_iff, h.ok_iff,
    fun _ _ hr hresult => h.exists_not_taken hr hresult⟩

/-- Every string of the arguments is escaped just once, in the order of the visits, up to the
argument that is refused. -/
theorem compile_escaped (e : Escaper) (strict : Bool) (template : Text) (args : List Value) :
    let c : Compiler := ⟨e, standard, strict⟩
    let ps := standard.scan template
    let visited := visits standard.specifiers ps
    let call := c.compile template args
    visited.Perm ps ∧
    (∀ r, call.result = .ok r → call.escaped = visited.flatMap (·.strings args)) ∧
    (∀ error, c.validate template = .error error → call.escaped = []) ∧
    (∀ error, bindArguments strict template ps args = .error error → call.escaped = []) ∧
    ∀ qs error, c.validate template = .ok () → bindArguments strict template ps args = .ok qs →
      call.result = .error error →
        ∃ before p after, visited = before ++ p :: after ∧
          (∀ q ∈ before, ∃ text, (standard.formatted e args q).result = .ok text) ∧
          (standard.formatted e args p).result = .error error ∧
          call.escaped = before.flatMap (·.strings args) ++ p.stringsBefore args := by
  intro c ps visited call
  have h : Ends e strict template args call := compile_ends e strict template args
  have hvalid : c.validate template = .ok () ↔ standard.unknown template = [] := validate_eq_ok_iff
  refine ⟨SpecifierTable.standard_visits_perm template, fun r hr => h.escaped_of_ok hr,
    fun error hinvalid => h.escaped_of_unknown fun hknown => ?_, fun error hbind => ?_,
    fun qs error hknown hqs herror => h.escaped_of_refused (hvalid.1 hknown) hqs herror⟩
  · exact absurd (hinvalid.symm.trans (hvalid.2 hknown)) (by simp)
  · refine h.escaped_of_miscounted ?_
    by_contra hcount
    obtain ⟨qs, hqs⟩ := exists_bindArguments hcount
    exact absurd (hbind.symm.trans hqs) (by simp)

/-- The pass of the identifiers comes before that of the other strings. -/
example : ((⟨.mysql, standard, true⟩ : Compiler).compile "? ?#".toList
    [.text "it's".toList, .list [.text "a".toList, .text "b".toList]]).escaped =
      ["a".toList, "b".toList, "it's".toList] := by rfl

end Compiler
end QueryTemplate
