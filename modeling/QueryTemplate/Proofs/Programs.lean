/-! Programs that read and change a state and may stop with an error: how a run ends, and the state
that it leaves. -/
namespace QueryTemplate
namespace Program

variable {ε σ α β : Type}

/-- How a program ends in a state, and the state it leaves. -/
def exec (x : ExceptT ε (StateM σ) α) (s : σ) : Except ε α × σ := ExceptT.run x s

@[simp] theorem exec_pure (a : α) (s : σ) :
    exec (pure a : ExceptT ε (StateM σ) α) s = (.ok a, s) := rfl

@[simp] theorem exec_throw (e : ε) (s : σ) :
    exec (throw e : ExceptT ε (StateM σ) α) s = (.error e, s) := rfl

@[simp] theorem exec_get (s : σ) : exec (get : ExceptT ε (StateM σ) σ) s = (.ok s, s) := rfl

@[simp] theorem exec_set (s s' : σ) :
    exec (set s' : ExceptT ε (StateM σ) PUnit) s = (.ok ⟨⟩, s') := rfl

@[simp] theorem exec_modify (f : σ → σ) (s : σ) :
    exec (modify f : ExceptT ε (StateM σ) PUnit) s = (.ok ⟨⟩, f s) := rfl

theorem exec_bind (x : ExceptT ε (StateM σ) α) (f : α → ExceptT ε (StateM σ) β) (s : σ) :
    exec (x >>= f) s = match exec x s with
      | (.ok a, next) => exec (f a) next
      | (.error e, next) => (.error e, next) := by
  unfold exec ExceptT.run
  simp only [bind, ExceptT.bind, ExceptT.mk, StateT.bind]
  cases x s with
  | mk result next => cases result <;> rfl

theorem exec_bind_of_ok {x : ExceptT ε (StateM σ) α} {s s' : σ} {a : α}
    (h : exec x s = (.ok a, s')) (f : α → ExceptT ε (StateM σ) β) :
    exec (x >>= f) s = exec (f a) s' := by
  rw [exec_bind, h]

theorem exec_bind_of_error {x : ExceptT ε (StateM σ) α} {s s' : σ} {e : ε}
    (h : exec x s = (.error e, s')) (f : α → ExceptT ε (StateM σ) β) :
    exec (x >>= f) s = (.error e, s') := by
  rw [exec_bind, h]

/-- A loop whose rounds change nothing. -/
theorem exec_forM_of_idle {l : List α} {f : α → ExceptT ε (StateM σ) PUnit} {s : σ}
    (h : ∀ a ∈ l, exec (f a) s = (.ok ⟨⟩, s)) : exec (l.forM f) s = (.ok ⟨⟩, s) := by
  induction l with
  | nil => rfl
  | cons a l ih =>
    have hfirst := h a List.mem_cons_self
    have hrest := ih fun b hb => h b (List.mem_cons_of_mem a hb)
    exact (exec_bind_of_ok hfirst _).trans hrest

end Program
end QueryTemplate
