import Mathlib.Data.Prod.Lex
import QueryTemplate.Proofs.Escaping
import QueryTemplate.Query.Binding

/-! Passes over the segments of a template, each fed by the queue of its token. -/
namespace QueryTemplate

namespace Segment

def hole? : Segment → Option Placeholder
  | .text _ => none
  | .placeholder p => some p

/-- The placeholders that are still to be filled. -/
def holes (segments : List Segment) : List Placeholder := segments.filterMap hole?

@[simp] theorem holes_nil : holes [] = [] := rfl

@[simp] theorem holes_text (t : Text) (rest : List Segment) :
    holes (.text t :: rest) = holes rest := rfl

@[simp] theorem holes_placeholder (p : Placeholder) (rest : List Segment) :
    holes (.placeholder p :: rest) = p :: holes rest := rfl

theorem holes_append (l l' : List Segment) : holes (l ++ l') = holes l ++ holes l' :=
  List.filterMap_append

theorem mem_holes {p : Placeholder} {segments : List Segment} :
    p ∈ holes segments ↔ .placeholder p ∈ segments := by
  induction segments with
  | nil => simp
  | cons a rest ih => cases a <;> simp [ih]

/-- A segment with the text of its placeholder in place. -/
def fillWith (w : Placeholder → Text) : Segment → Segment
  | .text t => .text t
  | .placeholder p => .text (w p)

theorem map_fillWith_of_no_holes {w : Placeholder → Text} {segments : List Segment}
    (h : holes segments = []) : segments.map (fillWith w) = segments := by
  induction segments with
  | nil => rfl
  | cons a rest ih =>
    cases a with
    | text t => rw [List.map_cons, ih h, fillWith]
    | placeholder p => exact absurd h (List.cons_ne_nil _ _)

@[simp] theorem holes_map_fillWith (w : Placeholder → Text) (segments : List Segment) :
    holes (segments.map (fillWith w)) = [] := by
  induction segments with
  | nil => rfl
  | cons a rest ih => cases a <;> exact ih

/-- As `fillWith`, for the placeholders of one token. -/
def fillToken (token : Text) (w : Placeholder → Text) : Segment → Segment
  | .text t => .text t
  | .placeholder p => if p.token = token then .text (w p) else .placeholder p

/-- As `fillWith`, for the placeholders whose token some specifier has. -/
def fillKnown (specs : List Specifier) (w : Placeholder → Text) : Segment → Segment
  | .text t => .text t
  | .placeholder p =>
    if (specs.find? (·.token == p.token)).isSome then .text (w p) else .placeholder p

theorem fillKnown_nil (w : Placeholder → Text) (a : Segment) : fillKnown [] w a = a := by
  cases a <;> rfl

theorem fillKnown_fillToken (s : Specifier) (specs : List Specifier) (w : Placeholder → Text)
    (a : Segment) : fillKnown specs w (fillToken s.token w a) = fillKnown (s :: specs) w a := by
  cases a with
  | text t => rfl
  | placeholder p =>
    by_cases hp : p.token = s.token
    · simp [fillToken, fillKnown, hp]
    · simp [fillToken, fillKnown, hp, Ne.symm hp]

/-- The placeholders whose token no specifier has are not filled. -/
theorem holes_map_fillKnown (specs : List Specifier) (w : Placeholder → Text)
    (segments : List Segment) :
    holes (segments.map (fillKnown specs w)) =
      (holes segments).filter fun p => (specs.find? (·.token == p.token)).isNone := by
  induction segments with
  | nil => rfl
  | cons a rest ih =>
    cases a with
    | text t => exact ih
    | placeholder p =>
      cases hp : specs.find? (·.token == p.token) with
      | none => simp [fillKnown, hp, ih]
      | some s => simp [fillKnown, hp, ih]

end Segment

namespace Queues

variable {qs qs' : Queues} {args : List Value} {ps : List Placeholder}

theorem waiting_leave (token : Text) (left : List Value) (qs : Queues) (token' : Text) :
    (qs.leave token left).waiting token' = if token' = token then left else qs.waiting token' := by
  rw [waiting, leave, Assoc.lookup_put]
  split_ifs <;> rfl

theorem waiting_push (token : Text) (v : Value) (qs : Queues) (token' : Text) :
    (qs.push token v).waiting token' =
      if token' = token then qs.waiting token ++ [v] else qs.waiting token' := by
  rw [waiting, push, Assoc.lookup_put]
  split_ifs <;> rfl

/-- Each token has one queue. -/
def Distinct (qs : Queues) : Prop := (qs.map (·.1)).Nodup

theorem distinct_nil : Distinct [] := List.nodup_nil

theorem Distinct.put (h : qs.Distinct) (token : Text) (vs : List Value) :
    Distinct (Assoc.put token vs qs) := by
  rw [Distinct, Assoc.map_fst_put]
  split_ifs with hmem
  · exact h
  · exact List.nodup_append.2 ⟨h, List.pairwise_singleton _ _, fun a ha b hb hab =>
      hmem (List.mem_singleton.1 hb ▸ hab ▸ ha)⟩

theorem Distinct.waiting_eq (h : qs.Distinct) {token : Text} {vs : List Value}
    (hmem : (token, vs) ∈ qs) : qs.waiting token = vs := by
  induction qs with
  | nil => exact absurd hmem List.not_mem_nil
  | cons q qs ih =>
    obtain ⟨token', vs'⟩ := q
    obtain ⟨hnew, hrest⟩ := List.nodup_cons.1 h
    rw [waiting, Assoc.lookup_cons]
    rcases List.mem_cons.1 hmem with heq | hlater
    · obtain ⟨rfl, rfl⟩ := Prod.mk.inj heq
      rw [if_pos rfl]
      rfl
    · have hne : token ≠ token' := by
        rintro rfl
        exact hnew (List.mem_map.2 ⟨_, hlater, rfl⟩)
      rw [if_neg hne]
      exact ih hrest hlater

end Queues

/-- The argument that is bound to a placeholder. -/
def argumentOf (args : List Value) (p : Placeholder) : Value := args[p.position]?.getD .null

section Binding

variable {args : List Value} {ps : List Placeholder} {qs qs' : Queues}

theorem waiting_enqueue (h : enqueue args ps qs = .ok qs') (token : Text) :
    qs'.waiting token =
      qs.waiting token ++ (ps.filter (·.token = token)).map (argumentOf args) := by
  induction ps generalizing qs with
  | nil =>
    obtain rfl := Except.ok.inj h
    exact (List.append_nil _).symm
  | cons p ps ih =>
    rw [enqueue] at h
    cases hv : args[p.position]? with
    | none => simp [hv] at h
    | some v =>
      simp only [hv] at h
      have hp : argumentOf args p = v := by rw [argumentOf, hv]; rfl
      rw [ih h, Queues.waiting_push]
      by_cases ht : token = p.token
      · simp [ht, hp]
      · simp [ht, Ne.symm ht]

theorem distinct_enqueue (hq : qs.Distinct) (h : enqueue args ps qs = .ok qs') : qs'.Distinct := by
  induction ps generalizing qs with
  | nil => exact Except.ok.inj h ▸ hq
  | cons p ps ih =>
    rw [enqueue] at h
    cases hv : args[p.position]? with
    | none => simp [hv] at h
    | some v =>
      simp only [hv] at h
      exact ih (hq.put _ _) h

theorem getElem?_of_enqueue (h : enqueue args ps qs = .ok qs') {p : Placeholder} (hp : p ∈ ps) :
    args[p.position]? = some (argumentOf args p) := by
  induction ps generalizing qs with
  | nil => exact absurd hp List.not_mem_nil
  | cons p' ps ih =>
    rw [enqueue] at h
    cases hv : args[p'.position]? with
    | none => simp [hv] at h
    | some v =>
      simp only [hv] at h
      rcases List.mem_cons.1 hp with rfl | hp
      · rw [argumentOf, hv]
        rfl
      · exact ih h hp

end Binding

/-- What one pass makes of a segment. -/
def Specifier.fillOne (s : Specifier) (e : Escaper) (value : Placeholder → Value) :
    Segment → Escaping Segment
  | .text t => pure (.text t)
  | .placeholder p =>
    if p.token = s.token then Segment.text <$> s.format e (value p) else pure (.placeholder p)

/-- The passes of several specifiers, each placeholder taking its own value. -/
def passes (e : Escaper) (value : Placeholder → Value) :
    List Specifier → List Segment → Escaping (List Segment)
  | [], segments => pure segments
  | s :: rest, segments => Format.each (s.fillOne e value) segments >>= passes e value rest

/-- Each queue holds, in order, the values of the placeholders that are still to be filled. -/
def Feeds (value : Placeholder → Value) (qs : Queues) (segments : List Segment) : Prop :=
  ∀ token, qs.waiting token = ((Segment.holes segments).filter (·.token = token)).map value

section Passes

open Format (each each_cons_of_pure)

variable {e : Escaper} {value : Placeholder → Value} {s : Specifier} {specs : List Specifier}
  {qs : Queues} {segments segments' : List Segment}

theorem fill_text (queue : List Value) (t : Text) (rest : List Segment) :
    s.fill e queue (.text t :: rest) =
      ⟨(s.fill e queue rest).left, (Segment.text t :: ·) <$> (s.fill e queue rest).written⟩ := rfl

theorem fill_other {p : Placeholder} (hp : p.token ≠ s.token) (queue : List Value)
    (rest : List Segment) :
    s.fill e queue (.placeholder p :: rest) =
      ⟨(s.fill e queue rest).left,
        (Segment.placeholder p :: ·) <$> (s.fill e queue rest).written⟩ := by
  simp [Specifier.fill, hp]

theorem fill_own_of_empty {p : Placeholder} (hp : p.token = s.token) (rest : List Segment) :
    s.fill e [] (.placeholder p :: rest) = ⟨[], .fail (.defect .emptyQueue)⟩ := by
  simp [Specifier.fill, hp]

theorem fill_own_of_error {p : Placeholder} (hp : p.token = s.token) {v : Value}
    {error : CompileError} (h : (s.format e v).result = .error error) (queue : List Value)
    (rest : List Segment) :
    s.fill e (v :: queue) (.placeholder p :: rest) =
      ⟨queue, ⟨(s.format e v).raw, .error error⟩⟩ := by
  simp [Specifier.fill, hp, h]

theorem fill_own_of_ok {p : Placeholder} (hp : p.token = s.token) {v : Value} {t : Text}
    (h : (s.format e v).result = .ok t) (queue : List Value) (rest : List Segment) :
    s.fill e (v :: queue) (.placeholder p :: rest) =
      ⟨(s.fill e queue rest).left, ⟨(s.format e v).raw ++ (s.fill e queue rest).written.raw,
        (Segment.text t :: ·) <$> (s.fill e queue rest).written.result⟩⟩ := by
  simp [Specifier.fill, hp, h]

/-- A pass whose queue holds the values of its placeholders gives each of them its own. -/
theorem fill_eq_each {queue : List Value}
    (hq : queue = ((Segment.holes segments).filter (·.token = s.token)).map value) :
    (s.fill e queue segments).written = each (s.fillOne e value) segments ∧
      ∀ segments', (each (s.fillOne e value) segments).result = .ok segments' →
        (s.fill e queue segments).left = [] := by
  induction segments generalizing queue with
  | nil =>
    subst hq
    exact ⟨rfl, fun _ _ => rfl⟩
  | cons a rest ih =>
    cases a with
    | text t =>
      obtain ⟨hw, hl⟩ := ih hq
      have hone : s.fillOne e value (.text t) = pure (.text t) := rfl
      rw [fill_text, each_cons_of_pure hone, hw]
      refine ⟨rfl, fun segments' h => ?_⟩
      obtain ⟨rest', hr⟩ := Escaping.ok_of_result_map h
      exact hl rest' hr
    | placeholder p =>
      by_cases hp : p.token = s.token
      · have hone : s.fillOne e value (.placeholder p) = Segment.text <$> s.format e (value p) :=
          if_pos hp
        rw [Segment.holes_placeholder, List.filter_cons_of_pos (by simpa using hp),
          List.map_cons] at hq
        subst hq
        obtain ⟨hw, hl⟩ := ih rfl
        rw [each, hone]
        cases ht : (s.format e (value p)).result with
        | error error =>
          have hmap : (Segment.text <$> s.format e (value p)).result = .error error := by
            rw [Escaping.result_map, ht]
            rfl
          rw [fill_own_of_error hp ht, Escaping.bind_of_error hmap, Escaping.raw_map]
          exact ⟨rfl, fun segments' h => absurd h (by simp)⟩
        | ok t =>
          have hmap : (Segment.text <$> s.format e (value p)).result = .ok (.text t) := by
            rw [Escaping.result_map, ht]
            rfl
          rw [fill_own_of_ok hp ht, Escaping.bind_of_ok hmap, Escaping.raw_map,
            ← map_eq_pure_bind, Escaping.raw_map, Escaping.result_map, hw]
          refine ⟨rfl, fun segments' h => ?_⟩
          rw [← Escaping.result_map] at h
          obtain ⟨rest', hr⟩ := Escaping.ok_of_result_map h
          exact hl rest' hr
      · have hone : s.fillOne e value (.placeholder p) = pure (.placeholder p) := if_neg hp
        rw [Segment.holes_placeholder, List.filter_cons_of_neg (by simpa using hp)] at hq
        obtain ⟨hw, hl⟩ := ih hq
        rw [each_cons_of_pure hone, fill_other hp, hw]
        refine ⟨rfl, fun segments' h => ?_⟩
        obtain ⟨rest', hr⟩ := Escaping.ok_of_result_map h
        exact hl rest' hr

/-- A pass leaves the placeholders of the other tokens. -/
theorem holes_of_each_fillOne
    (h : (each (s.fillOne e value) segments).result = .ok segments') :
    Segment.holes segments' = (Segment.holes segments).filter (·.token ≠ s.token) := by
  rw [Format.result_each_eq_ok] at h
  induction h with
  | nil => rfl
  | @cons a b rest rest' hab hrest ih =>
    cases a with
    | text t =>
      obtain rfl := Except.ok.inj hab
      exact ih
    | placeholder p =>
      by_cases hp : p.token = s.token
      · rw [Specifier.fillOne, if_pos hp, Escaping.result_map] at hab
        cases ht : (s.format e (value p)).result with
        | error error => simp [ht] at hab
        | ok t =>
          rw [ht] at hab
          obtain rfl := Except.ok.inj hab
          simp [hp, ih]
      · rw [Specifier.fillOne, if_neg hp] at hab
        obtain rfl := Except.ok.inj hab
        simp [hp, ih]

/-- A pass without placeholders changes nothing. -/
theorem each_fillOne_of_none
    (h : (Segment.holes segments).filter (·.token = s.token) = []) :
    each (s.fillOne e value) segments = pure segments := by
  induction segments with
  | nil => rfl
  | cons a rest ih =>
    cases a with
    | text t =>
      have hone : s.fillOne e value (.text t) = pure (.text t) := rfl
      rw [each_cons_of_pure hone, ih h, map_pure]
    | placeholder p =>
      have hp : p.token ≠ s.token := fun hp => by simp [hp] at h
      have hone : s.fillOne e value (.placeholder p) = pure (.placeholder p) := if_neg hp
      rw [Segment.holes_placeholder, List.filter_cons_of_neg (by simpa using hp)] at h
      rw [each_cons_of_pure hone, ih h, map_pure]

theorem Feeds.leave (hf : Feeds value qs segments)
    (h : Segment.holes segments' = (Segment.holes segments).filter (·.token ≠ s.token)) :
    Feeds value (qs.leave s.token []) segments' := by
  intro token
  rw [Queues.waiting_leave, h, List.filter_filter]
  split_ifs with ht
  · subst ht
    have hnone : (Segment.holes segments).filter
        (fun p => decide (p.token = s.token) && decide (p.token ≠ s.token)) = [] :=
      List.filter_eq_nil_iff.2 fun p _ => by simp
    rw [hnone, List.map_nil]
  · rw [hf token]
    congr 1
    refine List.filter_congr fun p _ => ?_
    by_cases hp : p.token = token
    · simp [hp, ht]
    · simp [hp]

/-- Queues that hold the values of the placeholders hand each of them its own, pass by pass. -/
theorem fillAll_eq_passes (hf : Feeds value qs segments) :
    (fillAll e specs qs segments).written = passes e value specs segments ∧
      ∀ segments', (passes e value specs segments).result = .ok segments' →
        Feeds value (fillAll e specs qs segments).left segments' := by
  induction specs generalizing qs segments with
  | nil =>
    refine ⟨rfl, fun segments' h => ?_⟩
    obtain rfl := Except.ok.inj h
    exact hf
  | cons s rest ih =>
    have hs := hf s.token
    unfold fillAll passes
    cases hq : qs.waiting s.token with
    | nil =>
      rw [hq, eq_comm, List.map_eq_nil_iff] at hs
      simp only [each_fillOne_of_none hs, pure_bind]
      exact ih hf
    | cons v queue =>
      rw [hq] at hs
      obtain ⟨hw, hl⟩ := fill_eq_each (e := e) hs
      simp only [hw]
      cases hr : (each (s.fillOne e value) segments).result with
      | error error =>
        rw [Escaping.bind_of_error hr]
        exact ⟨rfl, fun segments' h => absurd h (by simp)⟩
      | ok next =>
        obtain ⟨hw', hl'⟩ := ih (hf.leave (holes_of_each_fillOne hr))
        rw [Escaping.bind_of_ok hr]
        simp only [hl next hr]
        exact ⟨by rw [hw'], hl'⟩

theorem distinct_fillAll (hq : qs.Distinct) : (fillAll e specs qs segments).left.Distinct := by
  induction specs generalizing qs segments with
  | nil => exact hq
  | cons s rest ih =>
    unfold fillAll
    cases qs.waiting s.token with
    | nil => exact ih hq
    | cons v queue =>
      dsimp only
      cases (s.fill e (v :: queue) segments).written.result with
      | error error => exact hq.put _ _
      | ok next => exact ih (hq.put _ _)

/-- The value of a placeholder as the first specifier with its token writes it. -/
def formatBy (e : Escaper) (value : Placeholder → Value) (specs : List Specifier)
    (p : Placeholder) : Escaping Text :=
  match specs.find? (·.token == p.token) with
  | some s => s.format e (value p)
  | none => .fail (.defect .unhandledKind)

theorem formatBy_of_eq {p : Placeholder} (hp : p.token = s.token) :
    formatBy e value (s :: specs) p = s.format e (value p) := by
  simp [formatBy, hp]

theorem formatBy_of_ne {p : Placeholder} (hp : p.token ≠ s.token) :
    formatBy e value (s :: specs) p = formatBy e value specs p := by
  simp [formatBy, Ne.symm hp]

/-- Where every value is accepted by the first specifier of its placeholder's token, the passes fill
all placeholders that have such a specifier, and leave the others. -/
theorem result_passes_of_known {w : Placeholder → Text}
    (h : ∀ p ∈ Segment.holes segments, ∀ s, specs.find? (·.token == p.token) = some s →
      (s.format e (value p)).result = .ok (w p)) :
    (passes e value specs segments).result = .ok (segments.map (Segment.fillKnown specs w)) := by
  induction specs generalizing segments with
  | nil =>
    have hall : segments.map (Segment.fillKnown [] w) = segments :=
      List.map_id'' (Segment.fillKnown_nil w) segments
    rw [hall]
    rfl
  | cons s rest ih =>
    have hfirst : ∀ p : Placeholder, p.token = s.token →
        (s :: rest).find? (·.token == p.token) = some s :=
      fun p hp => List.find?_cons_of_pos (by simp [hp])
    have hlater : ∀ p : Placeholder, p.token ≠ s.token →
        (s :: rest).find? (·.token == p.token) = rest.find? (·.token == p.token) :=
      fun p hp => List.find?_cons_of_neg (by simpa using Ne.symm hp)
    have hpass : (each (s.fillOne e value) segments).result =
        .ok (segments.map (Segment.fillToken s.token w)) := by
      refine Format.result_each_of_ok _ fun a ha => ?_
      cases a with
      | text t => rfl
      | placeholder p =>
        by_cases hp : p.token = s.token
        · have ht := h p (Segment.mem_holes.2 ha) s (hfirst p hp)
          simp [Specifier.fillOne, Segment.fillToken, hp, ht]
        · simp [Specifier.fillOne, Segment.fillToken, hp]
    have hrest : (passes e value rest (segments.map (Segment.fillToken s.token w))).result =
        .ok ((segments.map (Segment.fillToken s.token w)).map (Segment.fillKnown rest w)) :=
      ih fun p hp s' hs' => by
        rw [holes_of_each_fillOne hpass, List.mem_filter, decide_eq_true_iff] at hp
        rw [← hlater p hp.2] at hs'
        exact h p hp.1 s' hs'
    rw [passes, Escaping.bind_of_ok hpass]
    dsimp only
    rw [hrest, List.map_map]
    exact congrArg _ (List.map_congr_left fun a _ => Segment.fillKnown_fillToken s rest w a)

/-- If every value is accepted, the passes fill every placeholder. -/
theorem result_passes_of_ok {w : Placeholder → Text}
    (h : ∀ p ∈ Segment.holes segments, (formatBy e value specs p).result = .ok (w p)) :
    (passes e value specs segments).result = .ok (segments.map (Segment.fillWith w)) := by
  have hknown : ∀ p ∈ Segment.holes segments, ∃ s, specs.find? (·.token == p.token) = some s ∧
      (s.format e (value p)).result = .ok (w p) := by
    intro p hp
    have ht := h p hp
    unfold formatBy at ht
    split at ht
    next s hs => exact ⟨s, hs, ht⟩
    next => exact absurd ht (by simp)
  rw [result_passes_of_known (w := w) fun p hp s hs => ?_]
  · refine congrArg _ (List.map_congr_left fun a ha => ?_)
    cases a with
    | text t => rfl
    | placeholder p =>
      obtain ⟨s, hs, -⟩ := hknown p (Segment.mem_holes.2 ha)
      simp [Segment.fillKnown, Segment.fillWith, hs]
  · obtain ⟨s', hs', ht⟩ := hknown p hp
    rw [hs] at hs'
    rwa [Option.some.inj hs']

/-- The place of a placeholder in the order of the passes: first by the place of its token among
the specifiers, then from left to right. -/
def passOrder (specs : List Specifier) (p : Placeholder) : ℕ ×ₗ ℕ :=
  toLex (specs.findIdx (·.token == p.token), p.position)

theorem passOrder_le_of_eq {p q : Placeholder} (hp : p.token = s.token) (hq : q.token = s.token)
    (h : p.position ≤ q.position) : passOrder (s :: specs) p ≤ passOrder (s :: specs) q := by
  have hi : ∀ r : Placeholder, r.token = s.token →
      (s :: specs).findIdx (·.token == r.token) = 0 := by
    intro r hr
    simp [List.findIdx_cons, hr]
  rw [passOrder, passOrder, hi p hp, hi q hq, Prod.Lex.toLex_le_toLex]
  exact Or.inr ⟨rfl, h⟩

theorem passOrder_cons_of_ne {p : Placeholder} (hp : p.token ≠ s.token) :
    (s :: specs).findIdx (·.token == p.token) = specs.findIdx (·.token == p.token) + 1 := by
  rw [List.findIdx_cons, beq_false_of_ne (Ne.symm hp), cond_false]

theorem passOrder_le_of_eq_of_ne {p q : Placeholder} (hp : p.token = s.token)
    (hq : q.token ≠ s.token) : passOrder (s :: specs) p ≤ passOrder (s :: specs) q := by
  rw [passOrder, passOrder, passOrder_cons_of_ne hq, Prod.Lex.toLex_le_toLex]
  left
  simp [List.findIdx_cons, hp]

theorem passOrder_le_of_ne {p q : Placeholder} (hp : p.token ≠ s.token) (hq : q.token ≠ s.token)
    (h : passOrder specs p ≤ passOrder specs q) :
    passOrder (s :: specs) p ≤ passOrder (s :: specs) q := by
  rw [passOrder, passOrder, Prod.Lex.toLex_le_toLex] at h ⊢
  rw [passOrder_cons_of_ne hp, passOrder_cons_of_ne hq]
  dsimp only at h ⊢
  omega

theorem formatBy_of_accepted {p : Placeholder} (hp : p.token = s.token)
    (h : ∃ b, (s.fillOne e value (.placeholder p)).result = .ok b) :
    ∃ t, (formatBy e value (s :: specs) p).result = .ok t := by
  obtain ⟨b, hb⟩ := h
  rw [Specifier.fillOne, if_pos hp] at hb
  rw [formatBy_of_eq hp]
  exact Escaping.ok_of_result_map hb

theorem exists_of_fillOne_error (specs : List Specifier) {a : Segment} {error : CompileError}
    (ha : (s.fillOne e value a).result = .error error) :
    ∃ p, a = .placeholder p ∧ p.token = s.token ∧
      (formatBy e value (s :: specs) p).result = .error error := by
  cases a with
  | text t => exact absurd ha (by simp [Specifier.fillOne])
  | placeholder p =>
    have hp : p.token = s.token := by
      by_contra hp
      simp [Specifier.fillOne, hp] at ha
    refine ⟨p, rfl, hp, ?_⟩
    rw [Specifier.fillOne, if_pos hp, Escaping.result_map] at ha
    rw [formatBy_of_eq hp]
    cases hr : (s.format e (value p)).result with
    | ok t => simp [hr] at ha
    | error error' =>
      rw [hr] at ha
      exact congrArg _ (Except.error.inj ha)

/-- The first placeholder that a pass refuses comes before whatever else is refused, by this pass
or by a later one. -/
theorem passOrder_le_of_first {before after : List Segment} {p q : Placeholder}
    (hpos : (Segment.holes (before ++ .placeholder p :: after)).Pairwise
      fun p q => p.position < q.position)
    (hbefore : ∀ b ∈ before, ∃ c, (s.fillOne e value b).result = .ok c) (hp : p.token = s.token)
    (hq : q ∈ Segment.holes (before ++ .placeholder p :: after))
    (hqe : ∃ error, (formatBy e value (s :: specs) q).result = .error error) :
    passOrder (s :: specs) p ≤ passOrder (s :: specs) q := by
  by_cases hqs : q.token = s.token
  · refine passOrder_le_of_eq hp hqs ?_
    rw [Segment.holes_append, Segment.holes_placeholder] at hq hpos
    rcases List.mem_append.1 hq with hq | hq
    · obtain ⟨error, hqe⟩ := hqe
      obtain ⟨t, ht⟩ : ∃ t, (formatBy e value (s :: specs) q).result = .ok t :=
        formatBy_of_accepted hqs (hbefore _ (Segment.mem_holes.1 hq))
      simp [hqe] at ht
    · rcases List.mem_cons.1 hq with rfl | hq
      · exact Nat.le_refl _
      · exact Nat.le_of_lt ((List.pairwise_cons.1 (List.pairwise_append.1 hpos).2.1).1 q hq)
  · exact passOrder_le_of_eq_of_ne hp hqs

variable (e value specs segments) in
/-- If some value is refused, the error is that of the refused placeholder which comes first in
the order of the passes. -/
theorem result_passes_of_error
    (htok : ∀ p ∈ Segment.holes segments, ∃ s ∈ specs, s.token = p.token)
    (hpos : (Segment.holes segments).Pairwise fun p q => p.position < q.position)
    (hfail : ∃ p ∈ Segment.holes segments, ∃ error,
      (formatBy e value specs p).result = .error error) :
    ∃ p ∈ Segment.holes segments, ∃ error, (formatBy e value specs p).result = .error error ∧
      (passes e value specs segments).result = .error error ∧
      ∀ q ∈ Segment.holes segments, (∃ error', (formatBy e value specs q).result = .error error') →
        passOrder specs p ≤ passOrder specs q := by
  induction specs generalizing segments with
  | nil =>
    obtain ⟨p, hp, -⟩ := hfail
    obtain ⟨s, hs, -⟩ := htok p hp
    exact absurd hs List.not_mem_nil
  | cons s rest ih =>
    rcases Format.exists_first_error (s.fillOne e value) segments with
      hall | ⟨before, a, after, error, rfl, hbefore, ha⟩
    · obtain ⟨next, hnext⟩ := Format.exists_result_each hall
      have hholes := holes_of_each_fillOne hnext
      -- what this pass did not refuse is refused by a later one
      have hlater : ∀ q ∈ Segment.holes segments,
          (∃ error', (formatBy e value (s :: rest) q).result = .error error') →
            q.token ≠ s.token := by
        rintro q hq ⟨error', hq'⟩ heq
        have hok := hall _ (Segment.mem_holes.1 hq)
        obtain ⟨t, ht⟩ : ∃ t, (formatBy e value (s :: rest) q).result = .ok t :=
          formatBy_of_accepted heq hok
        simp [hq'] at ht
      have hmem : ∀ q, q ∈ Segment.holes next ↔
          q ∈ Segment.holes segments ∧ q.token ≠ s.token := by
        intro q
        rw [hholes, List.mem_filter, decide_eq_true_iff]
      obtain ⟨p, hp, error, hpe, hres, hmin⟩ := ih next
        (fun q hq => by
          obtain ⟨hq, hne⟩ := (hmem q).1 hq
          obtain ⟨s', hs', hq'⟩ := htok q hq
          rcases List.mem_cons.1 hs' with rfl | hs'
          · exact absurd hq'.symm hne
          · exact ⟨s', hs', hq'⟩)
        (hholes ▸ hpos.filter _)
        (by
          obtain ⟨q, hq, error, hqe⟩ := hfail
          have hne := hlater q hq ⟨error, hqe⟩
          rw [formatBy_of_ne hne] at hqe
          exact ⟨q, (hmem q).2 ⟨hq, hne⟩, error, hqe⟩)
      obtain ⟨hp, hne⟩ := (hmem p).1 hp
      refine ⟨p, hp, error, by rwa [formatBy_of_ne hne], ?_, ?_⟩
      · rw [passes, Escaping.bind_of_ok hnext]
        exact hres
      · intro q hq hqe
        have hqne := hlater q hq hqe
        rw [formatBy_of_ne hqne] at hqe
        exact passOrder_le_of_ne hne hqne (hmin q ((hmem q).2 ⟨hq, hqne⟩) hqe)
    · obtain ⟨p, rfl, hp, hpe⟩ := exists_of_fillOne_error rest ha
      have hmem : p ∈ Segment.holes (before ++ .placeholder p :: after) :=
        Segment.mem_holes.2 (by simp)
      refine ⟨p, hmem, error, hpe, ?_, fun q hq hqe => passOrder_le_of_first hpos hbefore hp hq hqe⟩
      rw [passes, Escaping.bind_of_error (Format.result_each_of_error after hbefore ha)]

end Passes
end QueryTemplate
