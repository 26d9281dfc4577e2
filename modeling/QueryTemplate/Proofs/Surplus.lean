import QueryTemplate.Proofs.Outcomes

/-! Arguments beyond those that the placeholders take: a call that is not strict never looks at
them. -/
namespace QueryTemplate

section Binding

variable {template : Text} {ps : List Placeholder} {args : List Value}

/-- Binding reads the arguments at the positions of the placeholders, and no other. -/
theorem enqueue_take {n : Nat} (h : ∀ p ∈ ps, p.position < n) (args : List Value) (qs : Queues) :
    enqueue (args.take n) ps qs = enqueue args ps qs := by
  induction ps generalizing qs with
  | nil => rfl
  | cons p ps ih =>
    obtain ⟨hp, hps⟩ := List.forall_mem_cons.1 h
    rw [enqueue, enqueue, List.getElem?_take_of_lt hp]
    cases args[p.position]? with
    | none => rfl
    | some v => exact ih hps _

/-- Without strictness the arguments are bound as the strict call binds as many as there are
placeholders. -/
theorem bindArguments_lenient (hps : ∀ p ∈ ps, p.position < ps.length)
    (henough : ps.length ≤ args.length) :
    bindArguments false template ps args =
      bindArguments true template ps (args.take ps.length) := by
  have hlenient : ¬ Miscounted false ps.length args.length := by
    rintro (hfew | ⟨hstrict, -⟩)
    · omega
    · exact absurd hstrict Bool.false_ne_true
  have hstrict : ¬ Miscounted true ps.length (args.take ps.length).length := by
    rw [List.length_take_of_le henough]
    rintro (hfew | ⟨-, hmany⟩)
    · exact Nat.lt_irrefl _ hfew
    · exact Nat.lt_irrefl _ hmany
  rw [bindArguments_of_counted hlenient, bindArguments_of_counted hstrict, enqueue_take hps]

end Binding

namespace Compiler

variable {e : Escaper} {t : SpecifierTable} {template : Text} {args : List Value} {strict : Bool}

/-- Strictness and arguments count for a call only by what is bound. -/
theorem compile_congr {strict' : Bool} {args' : List Value}
    (h : bindArguments strict template (t.scan template) args =
      bindArguments strict' template (t.scan template) args') :
    (⟨e, t, strict⟩ : Compiler).compile template args =
      (⟨e, t, strict'⟩ : Compiler).compile template args' := by
  have hsubstituted : (⟨e, t, strict⟩ : Compiler).substituted template args =
      (⟨e, t, strict'⟩ : Compiler).substituted template args' := by
    unfold substituted
    dsimp only
    rw [h]
  unfold compile
  rw [hsubstituted]
  rfl

theorem compile_of_few (hvalid : (⟨e, t, strict⟩ : Compiler).validate template = .ok ())
    (hfew : args.length < (t.scan template).length) :
    (⟨e, t, strict⟩ : Compiler).compile template args = ⟨[], [], .error (.refusal
      (.argumentCount (t.scan template).length args.length template))⟩ := by
  have hfail : (⟨e, t, strict⟩ : Compiler).substituted template args = .fail (.refusal
      (.argumentCount (t.scan template).length args.length template)) :=
    substituted_of_miscounted (Or.inl hfew)
  rw [compile, hvalid, hfail]
  rfl

theorem compile_lenient (henough : (t.scan template).length ≤ args.length) :
    (⟨e, t, false⟩ : Compiler).compile template args =
      (⟨e, t, true⟩ : Compiler).compile template (args.take (t.scan template).length) :=
  compile_congr
    (bindArguments_lenient (fun _ hp => SpecifierTable.position_lt_of_mem_scan hp) henough)

/-- A call that is not strict is the strict call with as many of the arguments as there are
placeholders, whatever follows them; with fewer both are refused for that. -/
theorem compile_surplus (e : Escaper) (t : SpecifierTable) (template : Text) (args : List Value) :
    let call (strict : Bool) (args : List Value) :=
      (⟨e, t, strict⟩ : Compiler).compile template args
    let n := (t.scan template).length
    (n ≤ args.length → call false args = call true (args.take n)) ∧
    (args.length < n → ∀ strict, (⟨e, t, strict⟩ : Compiler).validate template = .ok () →
      call strict args = ⟨[], [], .error (.refusal (.argumentCount n args.length template))⟩) ∧
    (n ≤ args.length → ∀ more, call false (args.take n ++ more) = call false args) := by
  intro call n
  refine ⟨compile_lenient, fun hfew strict hvalid => compile_of_few hvalid hfew,
    fun henough more => ?_⟩
  have hlen : (args.take n).length = n := List.length_take_of_le henough
  calc
    call false (args.take n ++ more) = call true ((args.take n ++ more).take n) :=
      compile_lenient (by rw [List.length_append, hlen]; exact Nat.le_add_right _ _)
    _ = call true (args.take n) := by
      rw [List.take_append_of_le_length hlen.ge, List.take_take, min_self]
    _ = call false args := (compile_lenient henough).symm

end Compiler
end QueryTemplate
