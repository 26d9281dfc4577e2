import QueryTemplate.Proofs.Acceptance
import QueryTemplate.Proofs.Substitution

/-! The order in which the passes come to the placeholders, and the strings escaped on the way. -/
namespace QueryTemplate

namespace Escaping

variable {α β : Type}

/-- What a computation records and the error that ends it, without its value. -/
def trace (x : Escaping α) : Escaping Unit := (fun _ => ()) <$> x

@[simp] theorem trace_pure (a : α) : trace (pure a) = pure () := map_pure _ _

theorem trace_bind (x : Escaping α) (f : α → Escaping β) :
    trace (x >>= f) = x >>= fun a => trace (f a) := map_bind _ _ _

/-- A continuation that comes to the same after every value depends on the trace alone. -/
theorem bind_eq_trace_bind {x : Escaping α} {f : α → Escaping β} {y : Escaping β}
    (h : ∀ a, x.result = .ok a → f a = y) : x >>= f = trace x >>= fun _ => y := by
  rw [trace, bind_map_left]
  cases hx : x.result with
  | error error => rw [bind_of_error hx, bind_of_error hx]
  | ok a => rw [bind_of_ok hx, bind_of_ok hx, h a hx]

theorem raw_trace (x : Escaping α) : (trace x).raw = x.raw := raw_map _ x

theorem trace_ok (raw : List Text) (a : α) :
    trace (⟨raw, .ok a⟩ : Escaping α) = ⟨raw, .ok ()⟩ :=
  Escaping.ext (raw_trace _) (result_map _ _)

theorem trace_error (raw : List Text) (error : CompileError) :
    trace (⟨raw, .error error⟩ : Escaping α) = ⟨raw, .error error⟩ :=
  Escaping.ext (raw_trace _) (result_map _ _)

theorem eq_of_trace_eq_ok {x : Escaping α} {raw : List Text} (h : trace x = ⟨raw, .ok ()⟩) :
    ∃ a, x = ⟨raw, .ok a⟩ := by
  obtain ⟨a, ha⟩ := ok_of_result_map (congrArg result h)
  exact ⟨a, Escaping.ext ((raw_trace x).symm.trans (congrArg Escaping.raw h)) ha⟩

theorem eq_of_trace_eq_error {x : Escaping α} {raw : List Text} {error : CompileError}
    (h : trace x = ⟨raw, .error error⟩) : x = ⟨raw, .error error⟩ := by
  refine Escaping.ext ((raw_trace x).symm.trans (congrArg Escaping.raw h)) ?_
  have hresult := congrArg result h
  rw [trace, result_map] at hresult
  cases hx : x.result with
  | error error' => rw [hx] at hresult; exact congrArg _ (Except.error.inj hresult)
  | ok a => rw [hx] at hresult; exact absurd hresult (by simp)

end Escaping

namespace Format

open Escaping (trace trace_bind trace_pure)

variable {α β : Type} {f g : α → Escaping β}

theorem each_congr {l : List α} (h : ∀ a ∈ l, f a = g a) : each f l = each g l := by
  induction l with
  | nil => rfl
  | cons a l ih =>
    obtain ⟨ha, hl⟩ := List.forall_mem_cons.1 h
    rw [each, each, ha, ih hl]

theorem trace_each_cons (f : α → Escaping β) (a : α) (l : List α) :
    trace (each f (a :: l)) = f a >>= fun _ => trace (each f l) := by
  simp only [each, trace_bind, trace_pure]
  rfl

theorem trace_each_append (f : α → Escaping β) (l l' : List α) :
    trace (each f (l ++ l')) = trace (each f l) >>= fun _ => trace (each f l') := by
  induction l with
  | nil => rw [List.nil_append, each, trace_pure, pure_bind]
  | cons a l ih => rw [List.cons_append, trace_each_cons, trace_each_cons, ih, bind_assoc]

end Format

namespace Placeholder

/-- The placeholders as the passes come to them: specifier by specifier, for each of them from
left to right. -/
def visits (specs : List Specifier) (ps : List Placeholder) : List Placeholder :=
  specs.flatMap fun s => ps.filter (·.token = s.token)

variable {s : Specifier} {specs : List Specifier} {ps : List Placeholder}

theorem visits_cons (s : Specifier) (specs : List Specifier) (ps : List Placeholder) :
    visits (s :: specs) ps = ps.filter (·.token = s.token) ++ visits specs ps := List.flatMap_cons

theorem visits_filter_ne (h : ∀ s' ∈ specs, s.token ≠ s'.token) :
    visits specs (ps.filter (·.token ≠ s.token)) = visits specs ps := by
  refine List.flatMap_congr fun s' hs' => ?_
  rw [List.filter_filter]
  refine List.filter_congr fun p _ => ?_
  by_cases hp : p.token = s'.token
  · simp [hp, Ne.symm (h s' hs')]
  · simp [hp]

theorem token_ne_of_mem_visits (h : ∀ s' ∈ specs, s.token ≠ s'.token) {p : Placeholder}
    (hp : p ∈ visits specs ps) : p.token ≠ s.token := by
  rw [← visits_filter_ne h, visits] at hp
  obtain ⟨s', -, hp⟩ := List.mem_flatMap.1 hp
  simpa using (List.mem_filter.1 (List.mem_filter.1 hp).1).2

/-- Specifiers with different tokens come to each placeholder once. -/
theorem visits_perm (hd : specs.Pairwise fun s s' => s.token ≠ s'.token)
    (htok : ∀ p ∈ ps, ∃ s ∈ specs, s.token = p.token) : (visits specs ps).Perm ps := by
  induction specs generalizing ps with
  | nil =>
    obtain rfl : ps = [] := List.eq_nil_iff_forall_not_mem.2 fun p hp => by
      obtain ⟨s, hs, -⟩ := htok p hp
      exact absurd hs List.not_mem_nil
    exact List.Perm.refl _
  | cons s specs ih =>
    obtain ⟨hs, hrest⟩ := List.pairwise_cons.1 hd
    have hlater : (visits specs ps).Perm (ps.filter (·.token ≠ s.token)) := by
      rw [← visits_filter_ne hs]
      refine ih hrest fun p hp => ?_
      obtain ⟨hp, hne⟩ := List.mem_filter.1 hp
      obtain ⟨s', hs', htoken⟩ := htok p hp
      rcases List.mem_cons.1 hs' with rfl | hs'
      · exact absurd htoken.symm (by simpa using hne)
      · exact ⟨s', hs', htoken⟩
    rw [visits_cons]
    refine (List.Perm.append_left _ hlater).trans ?_
    simpa using List.filter_append_perm (fun p : Placeholder => decide (p.token = s.token)) ps

end Placeholder

section Passes

open Escaping (trace trace_bind)
open Format (each trace_each_cons)

variable {e : Escaper} {value : Placeholder → Value} {segments : List Segment}

/-- A pass leaves the same trace as writing the values of its placeholders one after the other. -/
theorem trace_each_fillOne (s : Specifier) (specs : List Specifier) :
    trace (each (s.fillOne e value) segments) =
      trace (each (formatBy e value (s :: specs))
        ((Segment.holes segments).filter (·.token = s.token))) := by
  induction segments with
  | nil => rfl
  | cons a rest ih =>
    cases a with
    | text t =>
      have hone : s.fillOne e value (.text t) = pure (.text t) := rfl
      rw [trace_each_cons, hone, pure_bind, ih, Segment.holes_text]
    | placeholder p =>
      rw [trace_each_cons, ih, Segment.holes_placeholder]
      by_cases hp : p.token = s.token
      · rw [Specifier.fillOne, if_pos hp, bind_map_left,
          List.filter_cons_of_pos (by simpa using hp), trace_each_cons, formatBy_of_eq hp]
      · rw [Specifier.fillOne, if_neg hp, pure_bind, List.filter_cons_of_neg (by simpa using hp)]

/-- The passes leave the same trace as writing every value in the order of the visits. -/
theorem trace_passes {specs : List Specifier}
    (hd : specs.Pairwise fun s s' => s.token ≠ s'.token) :
    trace (passes e value specs segments) =
      trace (each (formatBy e value specs)
        (Placeholder.visits specs (Segment.holes segments))) := by
  induction specs generalizing segments with
  | nil => rfl
  | cons s specs ih =>
    obtain ⟨hs, hrest⟩ := List.pairwise_cons.1 hd
    have hlater : ∀ next, (each (s.fillOne e value) segments).result = .ok next →
        trace (passes e value specs next) =
          trace (each (formatBy e value (s :: specs))
            (Placeholder.visits specs (Segment.holes segments))) := by
      intro next hnext
      rw [ih hrest, holes_of_each_fillOne hnext, Placeholder.visits_filter_ne hs,
        Format.each_congr fun p hp => formatBy_of_ne (Placeholder.token_ne_of_mem_visits hs hp)]
    rw [passes, trace_bind, Escaping.bind_eq_trace_bind hlater, trace_each_fillOne s specs,
      Placeholder.visits_cons, Format.trace_each_append]

end Passes

namespace Placeholder

/-- Does the placeholder take the argument at its position, if there is one? -/
def takes (args : List Value) (p : Placeholder) : Bool :=
  match p.kind, args[p.position]? with
  | some k, some v => k.accepts v
  | _, _ => false

/-- The strings of the argument of a placeholder, each to be escaped once. -/
def strings (args : List Value) (p : Placeholder) : List Text :=
  match p.kind, args[p.position]? with
  | some k, some v => k.strings v
  | _, _ => []

/-- The strings that are escaped of the argument of a placeholder before it is refused. -/
def stringsBefore (args : List Value) (p : Placeholder) : List Text :=
  match p.kind, args[p.position]? with
  | some k, some v => k.stringsBefore v
  | _, _ => []

end Placeholder

namespace SpecifierTable

open Escaping (trace)
open Placeholder (visits)

variable {e : Escaper} {template : Text} {args : List Value} {qs : Queues} {p : Placeholder}

theorem standard_tokens_pairwise :
    standard.specifiers.Pairwise fun s s' => s.token ≠ s'.token := by decide

theorem standard_kind_isSome : ∀ s ∈ standard.specifiers, s.kind.isSome = true := by decide

theorem standard_visits_perm (template : Text) :
    (visits standard.specifiers (standard.scan template)).Perm (standard.scan template) :=
  Placeholder.visits_perm standard_tokens_pairwise fun p hp => by
    obtain ⟨s, hs, htoken, -⟩ := exists_standard_of_mem_scan hp
    exact ⟨s, hs, htoken⟩

theorem mem_scan_of_visits {before after : List Placeholder}
    (h : visits standard.specifiers (standard.scan template) = before ++ after) :
    ∀ q ∈ before ++ after, q ∈ standard.scan template := by
  intro q hq
  rw [← h] at hq
  exact (standard_visits_perm template).mem_iff.1 hq

/-- A placeholder that is bound decides about the argument at its position. -/
theorem decides_formatted (hp : p ∈ standard.scan template)
    (h : enqueue args (standard.scan template) [] = .ok qs) :
    (standard.formatted e args p).Decides p.token (p.takes args) (p.strings args)
      (p.stringsBefore args) := by
  obtain ⟨s, hs, htoken, hget, -⟩ := exists_standard_of_mem_scan hp
  obtain ⟨k, hk⟩ := Option.isSome_iff_exists.1 (standard_kind_isSome s hs)
  have hkind : p.kind = some k := by
    rw [(mem_scan hp).2.2.2.2, kind?, hget, Option.bind_some, hk]
  have harg : args[p.position]? = some (argumentOf args p) := getElem?_of_enqueue h hp
  have hformat := Specifier.decides_format hk e (argumentOf args p)
  rw [htoken] at hformat
  simpa only [formatted, Placeholder.takes, Placeholder.strings, Placeholder.stringsBefore, hkind,
    hget, harg] using hformat

theorem substitute_eq_passes {t : SpecifierTable} {ps : List Placeholder}
    (h : enqueue args ps [] = .ok qs) :
    (t.substitute e template ps qs).2 =
      passes e (argumentOf args) t.specifiers (Segment.split template ps) >>= joinFilled := by
  rw [← (fillAll_eq_passes (feeds_split h)).1]
  rfl

/-- The passes over a template come to writing its arguments in the order of the visits. -/
theorem trace_passes_split (h : enqueue args (standard.scan template) [] = .ok qs) :
    trace (passes e (argumentOf args) standard.specifiers
        (Segment.split template (standard.scan template))) =
      trace (Format.each (standard.formatted e args)
        (visits standard.specifiers (standard.scan template))) := by
  have hformatted : ∀ p ∈ visits standard.specifiers (standard.scan template),
      formatBy e (argumentOf args) standard.specifiers p = standard.formatted e args p := by
    intro p hp
    have hscan := (standard_visits_perm template).mem_iff.1 hp
    obtain ⟨s, -, -, -, hf, hb⟩ := formatted_eq hscan hscan h
    rw [hf, hb]
  rw [trace_passes standard_tokens_pairwise, Segment.holes_split, Format.each_congr hformatted]

theorem raw_joinFilled (segments : List Segment) : (joinFilled segments).raw = [] := by
  unfold joinFilled
  cases Segment.join segments <;> rfl

theorem substitute_of_all_taken (h : enqueue args (standard.scan template) [] = .ok qs)
    (hall : ∀ p ∈ standard.scan template, p.takes args = true) :
    ∃ text, (standard.substitute e template (standard.scan template) qs).2 =
      ⟨(visits standard.specifiers (standard.scan template)).flatMap (·.strings args),
        .ok text⟩ := by
  have hformatted : ∀ p ∈ standard.scan template, ∃ text,
      standard.formatted e args p = ⟨p.strings args, .ok text⟩ := fun p hp =>
    (decides_formatted hp h).ok (hall p hp)
  obtain ⟨texts, htexts⟩ := Format.each_of_ok fun p hp =>
    hformatted p ((standard_visits_perm template).mem_iff.1 hp)
  have htrace := trace_passes_split (e := e) h
  rw [htexts, Escaping.trace_ok] at htrace
  obtain ⟨segments, hsegments⟩ := Escaping.eq_of_trace_eq_ok htrace
  choose! w hw using hformatted
  have hresult := (substitute_of_accepted h fun p hp => congrArg Escaping.result (hw p hp)).1
  refine ⟨_, Escaping.ext ?_ hresult⟩
  rw [substitute_eq_passes h, hsegments, Escaping.bind_of_ok rfl]
  dsimp only
  rw [raw_joinFilled, List.append_nil]

/-- The first placeholder, in the order of the visits, that does not take its argument ends the
substitution. -/
theorem substitute_of_not_taken (h : enqueue args (standard.scan template) [] = .ok qs)
    {before after : List Placeholder}
    (hvisits : visits standard.specifiers (standard.scan template) = before ++ p :: after)
    (hbefore : ∀ q ∈ before, q.takes args = true) (hp : p.takes args = false) :
    ∃ r, Refusal.OfValue p.token r ∧
      (standard.formatted e args p).result = .error (.refusal r) ∧
      (standard.substitute e template (standard.scan template) qs).2 =
        ⟨before.flatMap (·.strings args) ++ p.stringsBefore args, .error (.refusal r)⟩ := by
  have hscan := mem_scan_of_visits hvisits
  obtain ⟨r, hr, hrefused⟩ := (decides_formatted (e := e) (hscan p (by simp)) h).refused hp
  have heach := Format.each_of_error after
    (fun q hq => (decides_formatted (e := e) (hscan q (by simp [hq])) h).ok (hbefore q hq)) hrefused
  have htrace := trace_passes_split (e := e) h
  rw [hvisits, heach, Escaping.trace_error] at htrace
  refine ⟨r, hr, congrArg Escaping.result hrefused, ?_⟩
  rw [substitute_eq_passes h, Escaping.eq_of_trace_eq_error htrace, Escaping.bind_of_error rfl]

end SpecifierTable
end QueryTemplate
