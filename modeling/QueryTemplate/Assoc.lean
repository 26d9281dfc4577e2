/-! Lists of keys and values in the order the keys first came. -/
namespace QueryTemplate.Assoc

variable {κ ν : Type} [DecidableEq κ]

/-- Puts a value under a key: a key that is there already keeps its place. -/
def put (k : κ) (v : ν) : List (κ × ν) → List (κ × ν)
  | [] => [(k, v)]
  | (k', v') :: rest => if k' = k then (k', v) :: rest else (k', v') :: put k v rest

/-- Puts several values, one after the other. -/
def putAll (added entries : List (κ × ν)) : List (κ × ν) :=
  added.foldl (fun es e => put e.1 e.2 es) entries

/-- Without a key. -/
def erase (k : κ) (entries : List (κ × ν)) : List (κ × ν) := entries.filter fun e => e.1 ≠ k

section Lookup

variable [BEq κ] [LawfulBEq κ]

theorem lookup_cons (k : κ) (v : ν) (entries : List (κ × ν)) (k' : κ) :
    ((k, v) :: entries).lookup k' = if k' = k then some v else entries.lookup k' := by
  rw [List.lookup_cons]
  by_cases h : k' = k
  · simp [h]
  · have h' : (k' == k) = false := beq_eq_false_iff_ne.2 h
    simp [h, h']

theorem lookup_put (k : κ) (v : ν) (entries : List (κ × ν)) (k' : κ) :
    (put k v entries).lookup k' = if k' = k then some v else entries.lookup k' := by
  induction entries with
  | nil => rw [put, lookup_cons]
  | cons e rest ih =>
    obtain ⟨k₀, v₀⟩ := e
    by_cases h₀ : k₀ = k
    · rw [put, if_pos h₀, lookup_cons, lookup_cons, h₀]
      split <;> rfl
    · rw [put, if_neg h₀, lookup_cons, lookup_cons, ih]
      by_cases h : k' = k₀
      · rw [if_pos h, if_pos h, if_neg (h ▸ h₀)]
      · rw [if_neg h, if_neg h]

/-- A value that is under its key already is put there without a change. -/
theorem put_of_lookup {k : κ} {v : ν} {entries : List (κ × ν)} (h : entries.lookup k = some v) :
    put k v entries = entries := by
  induction entries with
  | nil => cases h
  | cons e rest ih =>
    obtain ⟨k₀, v₀⟩ := e
    rw [lookup_cons] at h
    by_cases h₀ : k₀ = k
    · rw [if_pos h₀.symm] at h
      rw [put, if_pos h₀, Option.some.inj h]
    · rw [if_neg (Ne.symm h₀)] at h
      rw [put, if_neg h₀, ih h]

/-- Of the values put under one key the last counts. -/
theorem lookup_putAll (added entries : List (κ × ν)) (k : κ) :
    (putAll added entries).lookup k = (added.reverse.lookup k).or (entries.lookup k) := by
  induction added generalizing entries with
  | nil => rfl
  | cons e rest ih =>
    have hput : (put e.1 e.2 entries).lookup k = ([e].lookup k).or (entries.lookup k) := by
      rw [lookup_put, lookup_cons]
      split <;> simp
    change (putAll rest (put e.1 e.2 entries)).lookup k = _
    rw [ih, hput, List.reverse_cons, List.lookup_append, Option.or_assoc]

theorem lookup_map_const (ks : List κ) (v : ν) (k : κ) :
    (ks.map fun k => (k, v)).lookup k = if k ∈ ks then some v else none := by
  induction ks with
  | nil => rfl
  | cons k₀ ks ih =>
    rw [List.map_cons, lookup_cons, ih]
    by_cases hk : k = k₀ <;> simp [hk]

theorem mem_iff_lookup {entries : List (κ × ν)} (h : (entries.map (·.1)).Nodup) {k : κ} {v : ν} :
    (k, v) ∈ entries ↔ entries.lookup k = some v := by
  induction entries with
  | nil => simp
  | cons e rest ih =>
    obtain ⟨k₀, v₀⟩ := e
    obtain ⟨hfresh, hrest⟩ := List.nodup_cons.1 h
    rw [lookup_cons, List.mem_cons, ih hrest]
    by_cases hk : k = k₀
    · subst hk
      have hnone : rest.lookup k ≠ some v := fun hv =>
        hfresh (List.mem_map.2 ⟨(k, v), (ih hrest).2 hv, rfl⟩)
      simp [hnone, eq_comm]
    · simp [hk]

theorem lookup_isSome_iff {entries : List (κ × ν)} {k : κ} :
    (entries.lookup k).isSome ↔ k ∈ entries.map (·.1) := by
  induction entries with
  | nil => simp
  | cons e rest ih =>
    rw [lookup_cons, List.map_cons, List.mem_cons, ← ih]
    split <;> simp [*]

end Lookup

@[simp] theorem put_put (k : κ) (v v' : ν) (entries : List (κ × ν)) :
    put k v' (put k v entries) = put k v' entries := by
  induction entries with
  | nil => simp [put]
  | cons e rest ih =>
    obtain ⟨k₀, v₀⟩ := e
    by_cases h₀ : k₀ = k
    · simp [put, h₀]
    · simp [put, h₀, ih]

/-- A key that is there already keeps its place, a new one comes last. -/
theorem map_fst_put (k : κ) (v : ν) (entries : List (κ × ν)) :
    (put k v entries).map (·.1) =
      if k ∈ entries.map (·.1) then entries.map (·.1) else entries.map (·.1) ++ [k] := by
  induction entries with
  | nil => rfl
  | cons e rest ih =>
    obtain ⟨k₀, v₀⟩ := e
    by_cases h₀ : k₀ = k
    · simp [put, h₀]
    · have h₁ : ¬ k = k₀ := fun h => h₀ h.symm
      simp only [put, h₀, if_false, List.map_cons, ih, List.mem_cons, h₁, false_or]
      split <;> rfl

theorem nodup_put (k : κ) (v : ν) {entries : List (κ × ν)} (h : (entries.map (·.1)).Nodup) :
    ((put k v entries).map (·.1)).Nodup := by
  rw [map_fst_put]
  split
  next => exact h
  next hk => exact List.nodup_append.2 ⟨h, List.pairwise_singleton _ _, by grind⟩

theorem nodup_putAll (added : List (κ × ν)) {entries : List (κ × ν)}
    (h : (entries.map (·.1)).Nodup) : ((putAll added entries).map (·.1)).Nodup := by
  induction added generalizing entries with
  | nil => exact h
  | cons e rest ih => exact ih (nodup_put e.1 e.2 h)

end QueryTemplate.Assoc
