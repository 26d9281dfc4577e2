import QueryTemplate.Proofs.Outcomes

/-! Two calls on one template, compared step by step. -/
namespace QueryTemplate

/-- How two calls are compared: by what they escape, by the texts they write and by the errors they
end with. What is the same in both compares well, and so does what is put together from parts that
do. -/
structure Comparison where
  raw : List Text → List Text → Prop
  text : Text → Text → Prop
  error : CompileError → CompileError → Prop
  raw_refl : ∀ l, raw l l
  raw_append : ∀ {l l' m m' : List Text}, raw l l' → raw m m' → raw (l ++ m) (l' ++ m')
  text_refl : ∀ t, text t t
  text_append : ∀ {t t' u u' : Text}, text t t' → text u u' → text (t ++ u) (t' ++ u')
  error_refl : ∀ ε, error ε ε

namespace Comparison

open Format (each)

variable {α β γ δ : Type} {K : Comparison} {S : α → β → Prop} {T : γ → δ → Prop}

/-- Two computations end alike: with values that are related, or both with an error. -/
inductive Relates (K : Comparison) (S : α → β → Prop) : Escaping α → Escaping β → Prop
  | value {raw raw' : List Text} {a : α} {b : β} (hraw : K.raw raw raw') (h : S a b) :
    Relates K S ⟨raw, .ok a⟩ ⟨raw', .ok b⟩
  | error {raw raw' : List Text} {error error' : CompileError} (hraw : K.raw raw raw')
    (h : K.error error error') : Relates K S ⟨raw, .error error⟩ ⟨raw', .error error'⟩

namespace Relates

variable {x : Escaping α} {y : Escaping β}

theorem raw (h : K.Relates S x y) : K.raw x.raw y.raw := by
  cases h with
  | value hraw _ => exact hraw
  | error hraw _ => exact hraw

theorem refl {S : α → α → Prop} (hS : ∀ a, S a a) (x : Escaping α) : K.Relates S x x := by
  obtain ⟨raw, error | a⟩ := x
  · exact .error (K.raw_refl raw) (K.error_refl error)
  · exact .value (K.raw_refl raw) (hS a)

theorem of_pure {a : α} {b : β} (h : S a b) : K.Relates S (pure a) (pure b) := .value (K.raw_refl []) h

theorem of_fail {error error' : CompileError} (h : K.error error error') :
    K.Relates S (Escaping.fail error) (Escaping.fail error') := .error (K.raw_refl []) h

theorem same_fail (error : CompileError) :
    K.Relates S (Escaping.fail error) (Escaping.fail error) := of_fail (K.error_refl error)

/-- Computations that end alike go on to end alike. -/
theorem bind (h : K.Relates S x y) {f : α → Escaping γ} {g : β → Escaping δ}
    (hfg : ∀ a b, S a b → K.Relates T (f a) (g b)) : K.Relates T (x >>= f) (y >>= g) := by
  cases h with
  | value hraw hab =>
    rename_i a b
    rw [Escaping.bind_of_ok rfl, Escaping.bind_of_ok rfl]
    have hrest := hfg a b hab
    generalize f a = u at hrest ⊢
    generalize g b = v at hrest ⊢
    cases hrest with
    | value hraw' hcd => exact .value (K.raw_append hraw hraw') hcd
    | error hraw' herror => exact .error (K.raw_append hraw hraw') herror
  | error hraw herror =>
    rw [Escaping.bind_of_error rfl, Escaping.bind_of_error rfl]
    exact .error hraw herror

theorem bind_pure (h : K.Relates S x y) {f : α → γ} {g : β → δ}
    (hfg : ∀ a b, S a b → T (f a) (g b)) :
    K.Relates T (x >>= fun a => pure (f a)) (y >>= fun b => pure (g b)) :=
  h.bind fun a b hab => of_pure (hfg a b hab)

theorem map (h : K.Relates S x y) {f : α → γ} {g : β → δ} (hfg : ∀ a b, S a b → T (f a) (g b)) :
    K.Relates T (f <$> x) (g <$> y) := by
  rw [map_eq_pure_bind, map_eq_pure_bind]
  exact h.bind_pure hfg

/-- Items that are written alike one by one are written alike as a list. -/
theorem each {R : γ → δ → Prop} {f : γ → Escaping α} {g : δ → Escaping β} {l : List γ}
    {l' : List δ} (h : List.Forall₂ R l l') (hfg : ∀ c d, R c d → K.Relates S (f c) (g d)) :
    K.Relates (List.Forall₂ S) (Format.each f l) (Format.each g l') := by
  induction h with
  | nil => exact of_pure .nil
  | cons hcd _ ih =>
    unfold Format.each
    exact (hfg _ _ hcd).bind fun a b hab => ih.bind_pure fun as bs hrest => .cons hab hrest

end Relates

/-- Two segments compare well if they are texts that do, or one placeholder. -/
inductive Segments (K : Comparison) : Segment → Segment → Prop
  | text {t t' : Text} (h : K.text t t') : Segments K (.text t) (.text t')
  | placeholder (p : Placeholder) : Segments K (.placeholder p) (.placeholder p)

section Passes

variable {e : Escaper} {value value' : Placeholder → Value} {specs : List Specifier}
  {segments segments' : List Segment}

theorem segments_refl (segments : List Segment) : List.Forall₂ K.Segments segments segments := by
  refine List.forall₂_same.2 fun a _ => ?_
  cases a with
  | text t => exact .text (K.text_refl t)
  | placeholder p => exact .placeholder p

theorem relates_fillOne {s : Specifier}
    (h : ∀ p, K.Relates K.text (s.format e (value p)) (s.format e (value' p))) {a b : Segment}
    (hab : K.Segments a b) : K.Relates K.Segments (s.fillOne e value a) (s.fillOne e value' b) := by
  cases hab with
  | text ht => exact .of_pure (.text ht)
  | placeholder p =>
    unfold Specifier.fillOne
    by_cases hp : p.token = s.token
    · simp only [hp, if_true]
      exact (h p).map fun t t' ht => .text ht
    · simp only [hp, if_false]
      exact .of_pure (.placeholder p)

/-- Passes that write every value alike end alike. -/
theorem relates_passes
    (h : ∀ s ∈ specs, ∀ p, K.Relates K.text (s.format e (value p)) (s.format e (value' p)))
    (hsegments : List.Forall₂ K.Segments segments segments') :
    K.Relates (List.Forall₂ K.Segments) (passes e value specs segments)
      (passes e value' specs segments') := by
  induction specs generalizing segments segments' with
  | nil => exact .of_pure hsegments
  | cons s specs ih =>
    obtain ⟨hs, hrest⟩ := List.forall_mem_cons.1 h
    unfold passes
    apply (Relates.each hsegments fun a b hab => relates_fillOne hs hab).bind
    intro next next' hnext
    exact ih hrest hnext

theorem joinFrom_compared (h : List.Forall₂ K.Segments segments segments') (i : Nat) :
    (∃ t t', K.text t t' ∧ Segment.joinFrom i segments = .ok t ∧
      Segment.joinFrom i segments' = .ok t') ∨
    ∃ j, Segment.joinFrom i segments = .error j ∧ Segment.joinFrom i segments' = .error j := by
  induction h generalizing i with
  | nil => exact Or.inl ⟨[], [], K.text_refl [], rfl, rfl⟩
  | cons hab _ ih =>
    cases hab with
    | placeholder p => exact Or.inr ⟨i, rfl, rfl⟩
    | text ht =>
      unfold Segment.joinFrom
      rcases ih (i + 1) with ⟨u, u', hu, hok, hok'⟩ | ⟨j, herror, herror'⟩
      · left
        rw [hok, hok']
        exact ⟨_, _, K.text_append ht hu, rfl, rfl⟩
      · right
        rw [herror, herror']
        exact ⟨j, rfl, rfl⟩

theorem relates_joinFilled (h : List.Forall₂ K.Segments segments segments') :
    K.Relates K.text (joinFilled segments) (joinFilled segments') := by
  unfold joinFilled Segment.join
  rcases joinFrom_compared h 0 with ⟨t, t', ht, hok, hok'⟩ | ⟨j, herror, herror'⟩
  · rw [hok, hok']
    exact .of_pure ht
  · rw [herror, herror']
    exact .same_fail _

end Passes

section Calls

open Compiler

variable {c : Compiler} {template : Text} {args args' : List Value} {V : Value → Value → Prop}

theorem argumentOf_compared (h : List.Forall₂ V args args') (hnull : V .null .null)
    (p : Placeholder) : V (argumentOf args p) (argumentOf args' p) := by
  unfold argumentOf
  generalize p.position = i
  induction h generalizing i with
  | nil => exact hnull
  | cons hv _ ih =>
    cases i with
    | zero => exact hv
    | succ i => exact ih i

/-- Arguments that every specifier writes alike are substituted alike. -/
theorem relates_substituted (h : List.Forall₂ V args args') (hnull : V .null .null)
    (hformat : ∀ s ∈ c.table.specifiers, ∀ v v', V v v' →
      K.Relates K.text (s.format c.escaper v) (s.format c.escaper v')) :
    K.Relates K.text (c.substituted template args) (c.substituted template args') := by
  have hlen : args.length = args'.length := h.length_eq
  by_cases hcount : Miscounted c.strict (c.table.scan template).length args.length
  · rw [substituted_of_miscounted hcount, hlen, substituted_of_miscounted (hlen ▸ hcount)]
    exact .same_fail _
  · rw [substituted_of_counted hcount, substituted_of_counted (hlen ▸ hcount)]
    have hpasses := relates_passes
      (fun s hs p => hformat s hs _ _ (argumentOf_compared h hnull p))
      (segments_refl (Segment.split template (c.table.scan template)))
    exact hpasses.bind fun _ _ hsegments => relates_joinFilled hsegments

variable (c template) in
/-- Calls whose arguments are written alike both succeed, with texts that compare well, or both
fail, with errors that do and the same log. -/
theorem compile_compared (h : List.Forall₂ V args args') (hnull : V .null .null)
    (hformat : ∀ s ∈ c.table.specifiers, ∀ v v', V v v' →
      K.Relates K.text (s.format c.escaper v) (s.format c.escaper v')) :
    let x := c.compile template args
    let y := c.compile template args'
    K.raw x.escaped y.escaped ∧
    ((∃ t t', K.text t t' ∧ x.result = .ok (c.resolved template t) ∧
        y.result = .ok (c.resolved template t')) ∨
      (x.log = y.log ∧ ∃ error error', K.error error error' ∧ x.result = .error error ∧
        y.result = .error error')) := by
  intro x y
  cases hvalid : c.validate template with
  | error error =>
    have hx : x = ⟨c.validationLog template, [], .error error⟩ := compile_of_invalid hvalid args
    have hy : y = ⟨c.validationLog template, [], .error error⟩ := compile_of_invalid hvalid args'
    rw [hx, hy]
    exact ⟨K.raw_refl [], Or.inr ⟨rfl, error, error, K.error_refl error, rfl, rfl⟩⟩
  | ok _ =>
    obtain ⟨hescaped, hresult⟩ := compile_of_valid hvalid args
    obtain ⟨hescaped', hresult'⟩ := compile_of_valid hvalid args'
    have hrelates : K.Relates K.text (c.substituted template args) (c.substituted template args') :=
      relates_substituted h hnull hformat
    refine ⟨?_, ?_⟩
    · rw [hescaped, hescaped']
      exact hrelates.raw
    · generalize c.substituted template args = u at hrelates hresult
      generalize c.substituted template args' = v at hrelates hresult'
      cases hrelates with
      | value _ ht => exact Or.inl ⟨_, _, ht, hresult, hresult'⟩
      | error _ herror =>
        have hlog : x.log = y.log := (log_of_error hresult).trans (log_of_error hresult').symm
        exact Or.inr ⟨hlog, _, _, herror, hresult, hresult'⟩

end Calls

end Comparison
end QueryTemplate
