import QueryTemplate.Proofs.Identifiers

/-! Which mappings are written as lists, and how the others are written. -/
namespace QueryTemplate

/-- Keys count from a number on iff each is equal to its place after that number. -/
theorem Key.countFrom_iff (i : Int) (keys : List Key) :
    Key.countFrom i keys = true ↔
      ∀ (j : Nat) k, keys[j]? = some k → k.integer? = some (i + j) := by
  induction keys generalizing i with
  | nil => exact iff_of_true rfl fun j k h => absurd h (by simp)
  | cons k rest ih =>
    rw [Key.countFrom, Bool.and_eq_true, beq_iff_eq, ih]
    constructor
    · rintro ⟨hk, hrest⟩ j k' hj
      cases j with
      | zero =>
        obtain rfl := Option.some.inj hj
        simpa using hk
      | succ j =>
        rw [hrest j k' hj]
        congr 1
        omega
    · intro hall
      refine ⟨by simpa using hall 0 k rfl, fun j k' hj => ?_⟩
      rw [hall (j + 1) k' hj]
      congr 1
      omega

theorem Key.same_int_iff {k : Key} {n : Int} : k.same (.int n) = true ↔ k.integer? = some n := by
  unfold Key.same
  cases k.integer? with
  | none => simp [Key.integer?]
  | some m => simp [Key.integer?]

/-- A mapping is a list iff each key is the index of its place, or a floating-point number equal to
it. -/
theorem ArrayShape.ofKeys_eq_list_iff (keys : List Key) :
    ArrayShape.ofKeys keys = .list ↔ ∀ (i : Nat) k, keys[i]? = some k →
      k = .int i ∨ ∃ x, k = .float x ∧ k.same (.int i) = true := by
  have hshape : ArrayShape.ofKeys keys = .list ↔
      keys.any Key.isBool = false ∧ Key.countFrom 0 keys = true := by
    unfold ArrayShape.ofKeys
    cases keys.any Key.isBool with
    | true => simp
    | false => cases Key.countFrom 0 keys <;> simp
  have hbool : keys.any Key.isBool = false ↔
      ∀ (i : Nat) k, keys[i]? = some k → k.isBool = false := by
    simp only [List.any_eq_false, Bool.not_eq_true]
    constructor
    · exact fun hall i k hk => hall k (List.mem_of_getElem? hk)
    · intro hall k hk
      obtain ⟨i, hi⟩ := List.mem_iff_getElem?.1 hk
      exact hall i k hi
  have hkey : ∀ (i : Nat) (k : Key), (k.isBool = false ∧ k.integer? = some ((0 : Int) + i)) ↔
      (k = .int i ∨ ∃ x, k = .float x ∧ k.same (.int i) = true) := by
    intro i k
    rw [Key.same_int_iff, Int.zero_add]
    cases k <;> simp [Key.isBool, Key.integer?]
  rw [hshape, hbool, Key.countFrom_iff]
  constructor
  · rintro ⟨hnone, hcount⟩ i k hk
    exact (hkey i k).1 ⟨hnone i k hk, hcount i k hk⟩
  · intro hall
    exact ⟨fun i k hk => ((hkey i k).2 (hall i k hk)).1,
      fun i k hk => ((hkey i k).2 (hall i k hk)).2⟩

namespace Format

variable {e : Escaper} {token : Text}

/-- The text of a value that stands by itself does not depend on the placeholder. -/
theorem result_scalar_of_token {v : Value} {text : Text} (token' : Text)
    (h : (scalar e token v).result = .ok text) : (scalar e token' v).result = .ok text := by
  cases v with
  | null | skip | bool _ | int _ | text _ => exact h
  | float x =>
    simp only [scalar] at h ⊢
    split_ifs at h ⊢
    · exact h
    · exact absurd h (by simp [Escaping.refuse])
  | list _ | tuple _ | map _ _ | other _ _ _ => exact absurd h (by simp [scalar, Escaping.refuse])

theorem result_scalar_eq_ok_iff (token' : Text) {v : Value} {text : Text} :
    (scalar e token v).result = .ok text ↔ (scalar e token' v).result = .ok text :=
  ⟨result_scalar_of_token token', result_scalar_of_token token⟩

theorem result_assignments_eq_ok_iff {entries : List (Key × Value)} {text : Text} :
    (assignments e token entries).result = .ok text ↔ ∃ values : List Text,
      List.Forall₂ (fun entry value => (scalar e token entry.2).result = .ok value) entries
        values ∧
      text = joined (List.zipWith (assigned e) entries values) := by
  refine ⟨result_assignments, ?_⟩
  rintro ⟨values, hvalues, rfl⟩
  have hparts : (each (assignment e token) entries).result =
      .ok (List.zipWith (assigned e) entries values) := by
    rw [result_each_eq_ok]
    induction hvalues with
    | nil => exact .nil
    | cons hvalue _ ih =>
      refine .cons ?_ ih
      simp only [assignment, Escaping.result_bind, result_name, hvalue]
      rfl
  rw [assignments, Escaping.result_bind, hparts]
  rfl

end Format

/-- A mapping is written as the list of its values iff its keys are the indices from zero on, where
a floating-point number passes for the index it is equal to; else it is written as assignments, as
soon as each value has a text. -/
theorem array_of_mapping (e : Escaper) (typeName : String) (entries : List (Key × Value)) :
    let v := Value.map typeName entries
    let written := Specifier.array.format e v
    (v.arrayShape = .ok .list ↔ ∀ (i : Nat) k, (entries.map (·.1))[i]? = some k →
      k = .int i ∨ ∃ x, k = .float x ∧ k.same (.int i) = true) ∧
    (v.arrayShape = .ok .list →
      written = Specifier.array.format e (.list (entries.map (·.2)))) ∧
    (v.arrayShape ≠ .ok .list → ∀ text, written.result = .ok text ↔ ∃ values : List Text,
      List.Forall₂ (fun entry value => (Specifier.any.format e entry.2).result = .ok value) entries
        values ∧
      text = Format.joined (List.zipWith (Format.assigned e) entries values)) := by
  intro v written
  have hshape : v.arrayShape = .ok (ArrayShape.ofKeys (entries.map (·.1))) := rfl
  have hwritten : written = Format.array e Specifier.array.token v := rfl
  rw [hshape, hwritten, Except.ok.injEq]
  refine ⟨ArrayShape.ofKeys_eq_list_iff _, fun hlist => ?_, fun hmap text => ?_⟩
  · change Format.array e _ v = Format.items e Specifier.array.token (entries.map (·.2))
    rw [Format.array, hlist]
  · have hassignments : ArrayShape.ofKeys (entries.map (·.1)) = .map := by
      cases h : ArrayShape.ofKeys (entries.map (·.1)) with
      | list => exact absurd (congrArg _ h) hmap
      | map => rfl
    rw [Format.array, hassignments]
    dsimp only
    rw [Format.result_assignments_eq_ok_iff]
    simp only [Format.result_scalar_eq_ok_iff Specifier.any.token]
    rfl

/-- A floating-point zero passes for the index, and the name of the column is lost. -/
theorem array_of_float_key :
    Key.float ⟨0⟩ ≠ .int 0 ∧ Key.write (.float ⟨0⟩) = "0.0".toList ∧
      ArrayShape.ofKeys [.float ⟨0⟩] = .list ∧
      (Specifier.array.format .mysql (.map "dict" [(.float ⟨0⟩, .text "a".toList)])).result =
        .ok "'a'".toList := by decide +kernel

end QueryTemplate
