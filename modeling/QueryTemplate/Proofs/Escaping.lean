import Mathlib.Data.List.Forall2
import QueryTemplate.Query.Format

/-! Computations that escape, one after the other: what they record and where they end. -/
namespace QueryTemplate

attribute [ext] Escaping

theorem bind_eq_ok_iff {ε α β : Type} {x : Except ε α} {f : α → Except ε β} {b : β} :
    x >>= f = .ok b ↔ ∃ a, x = .ok a ∧ f a = .ok b := by
  cases x with
  | error e => simp [bind, Except.bind]
  | ok a => simp [bind, Except.bind]

namespace Escaping

variable {α β : Type}

@[simp] theorem result_bind (x : Escaping α) (f : α → Escaping β) :
    (x >>= f).result = x.result >>= fun a => (f a).result := by
  cases h : x.result with
  | error e => rw [bind_of_error h]; rfl
  | ok a => rw [bind_of_ok h]; rfl

private theorem bind_pure_eq (x : Escaping α) : x >>= pure = x := by
  cases h : x.result with
  | error e => rw [bind_of_error h]; ext1 <;> simp [h]
  | ok a => rw [bind_of_ok h]; ext1 <;> simp [h]

private theorem bind_bind {γ : Type} (x : Escaping α) (f : α → Escaping β) (g : β → Escaping γ) :
    x >>= f >>= g = x >>= fun a => f a >>= g := by
  cases h : x.result with
  | error e => rw [bind_of_error h, bind_of_error rfl, bind_of_error h]
  | ok a =>
    rw [bind_of_ok h, bind_of_ok h]
    cases hf : (f a).result with
    | error e => rw [bind_of_error hf, bind_of_error rfl]
    | ok b => rw [bind_of_ok hf, bind_of_ok rfl, List.append_assoc]

instance : LawfulMonad Escaping := LawfulMonad.mk' Escaping bind_pure_eq
  (fun a f => bind_of_ok (result_pure a) f) bind_bind

@[simp] theorem result_map (f : α → β) (x : Escaping α) :
    (f <$> x).result = f <$> x.result := by
  rw [map_eq_pure_bind, result_bind]
  cases x.result <;> rfl

theorem ok_of_result_map {f : α → β} {x : Escaping α} {b : β} (h : (f <$> x).result = .ok b) :
    ∃ a, x.result = .ok a := by
  rw [result_map] at h
  cases hx : x.result with
  | error e => simp [hx] at h
  | ok a => exact ⟨a, rfl⟩

@[simp] theorem raw_map (f : α → β) (x : Escaping α) : (f <$> x).raw = x.raw := by
  rw [map_eq_pure_bind]
  cases h : x.result with
  | error e => rw [bind_of_error h]
  | ok a => rw [bind_of_ok h]; simp

end Escaping

namespace Quoting

theorem escape_cons (q : Quoting) (c : Char) (rest : Text) :
    q.escape (c :: rest) = q.escapeChar c ++ q.escape rest := List.flatMap_cons

theorem escapeChar_ne_nil (q : Quoting) (c : Char) : q.escapeChar c ≠ [] := by
  cases q <;> simp only [escapeChar] <;> split_ifs <;> exact List.cons_ne_nil _ _

/-- The characters that escaping adds. -/
def added : List Char := ['\\', '0', 'n', 'r', 'Z', '\'']

theorem mem_escapeChar {q : Quoting} {c d : Char} (h : d ∈ q.escapeChar c) :
    d = c ∨ d ∈ added := by
  cases q with
  | backslash =>
    simp only [escapeChar] at h
    split_ifs at h <;> simp only [List.mem_cons, List.not_mem_nil, or_false] at h <;>
      rcases h with rfl | rfl <;> simp [added]
  | doubled =>
    simp only [escapeChar] at h
    split_ifs at h <;> simp only [List.mem_cons, List.not_mem_nil, or_false] at h
    · right
      rcases h with rfl | rfl <;> decide
    · exact Or.inl h

theorem mem_escape {q : Quoting} {raw : Text} {d : Char} (h : d ∈ q.escape raw) :
    d ∈ raw ∨ d ∈ added := by
  obtain ⟨c, hc, hd⟩ := List.mem_flatMap.1 h
  rcases mem_escapeChar hd with rfl | hd
  · exact Or.inl hc
  · exact Or.inr hd

end Quoting

namespace Format

variable {α β : Type} {f : α → Escaping β}

theorem each_cons_of_pure {a : α} {b : β} (h : f a = pure b) (rest : List α) :
    each f (a :: rest) = (b :: ·) <$> each f rest := by
  rw [each, h, pure_bind, map_eq_pure_bind]

theorem result_each_eq_ok {l : List α} {bs : List β} :
    (each f l).result = .ok bs ↔ List.Forall₂ (fun a b => (f a).result = .ok b) l bs := by
  induction l generalizing bs with
  | nil => simp [each, eq_comm]
  | cons a l ih =>
    simp only [each, Escaping.result_bind, bind_eq_ok_iff, Escaping.result_pure, ih,
      List.forall₂_cons_left_iff, Except.ok.injEq]
    constructor
    · rintro ⟨b, hb, bs', hbs, rfl⟩
      exact ⟨b, bs', hb, hbs, rfl⟩
    · rintro ⟨b, bs', hb, hbs, rfl⟩
      exact ⟨b, hb, bs', hbs, rfl⟩

theorem exists_of_mem_result_each {l : List α} {bs : List β} {b : β}
    (h : (each f l).result = .ok bs) (hb : b ∈ bs) : ∃ a ∈ l, (f a).result = .ok b := by
  rw [result_each_eq_ok] at h
  induction h with
  | nil => exact absurd hb List.not_mem_nil
  | cons hab _ ih =>
    rcases List.mem_cons.1 hb with rfl | hb
    · exact ⟨_, List.mem_cons_self, hab⟩
    · obtain ⟨a, ha, hab⟩ := ih hb
      exact ⟨a, List.mem_cons_of_mem _ ha, hab⟩

theorem result_each_of_ok {l : List α} (g : α → β) (h : ∀ a ∈ l, (f a).result = .ok (g a)) :
    (each f l).result = .ok (l.map g) := by
  rw [result_each_eq_ok, List.forall₂_map_right_iff, List.forall₂_same]
  exact h

theorem exists_result_each {l : List α} (h : ∀ a ∈ l, ∃ b, (f a).result = .ok b) :
    ∃ bs, (each f l).result = .ok bs := by
  induction l with
  | nil => exact ⟨[], rfl⟩
  | cons a l ih =>
    obtain ⟨⟨b, hb⟩, hl⟩ := List.forall_mem_cons.1 h
    obtain ⟨bs, hbs⟩ := ih hl
    exact ⟨b :: bs, result_each_eq_ok.2 (.cons hb (result_each_eq_ok.1 hbs))⟩

/-- The first that fails decides. -/
theorem result_each_of_error {before : List α} (after : List α) {a : α} {e : CompileError}
    (hb : ∀ b ∈ before, ∃ c, (f b).result = .ok c) (ha : (f a).result = .error e) :
    (each f (before ++ a :: after)).result = .error e := by
  induction before with
  | nil =>
    simp only [List.nil_append, each, Escaping.result_bind, ha]
    rfl
  | cons b before ih =>
    obtain ⟨c, hc⟩ := hb b List.mem_cons_self
    have hrest := ih fun b hb' => hb b (List.mem_cons_of_mem _ hb')
    simp only [List.cons_append, each, Escaping.result_bind, hc, hrest]
    rfl

theorem exists_first_error (f : α → Escaping β) (l : List α) :
    (∀ a ∈ l, ∃ b, (f a).result = .ok b) ∨
      ∃ before a after e, l = before ++ a :: after ∧
        (∀ b ∈ before, ∃ c, (f b).result = .ok c) ∧ (f a).result = .error e := by
  induction l with
  | nil => exact Or.inl fun a ha => absurd ha List.not_mem_nil
  | cons a l ih =>
    cases ha : (f a).result with
    | error e => exact Or.inr ⟨[], a, l, e, rfl, fun b hb => absurd hb List.not_mem_nil, ha⟩
    | ok b =>
      rcases ih with hall | ⟨before, a', after, e, rfl, hb, he⟩
      · exact Or.inl (List.forall_mem_cons.2 ⟨⟨b, ha⟩, hall⟩)
      · exact Or.inr ⟨a :: before, a', after, e, rfl, List.forall_mem_cons.2 ⟨⟨b, ha⟩, hb⟩, he⟩

end Format
end QueryTemplate
