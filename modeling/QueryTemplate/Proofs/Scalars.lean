import QueryTemplate.Proofs.Acceptance
import QueryTemplate.Proofs.Arrays
import QueryTemplate.Report

/-! Numbers and the items of arrays are written as they would be by themselves, and an item is
refused for what it would be refused for by itself. -/
namespace QueryTemplate

namespace Refusal

/-- The same refusal of a value, for a placeholder with another token. -/
def naming (token : Text) : Refusal → Refusal
  | .invalidValue _ typeName => .invalidValue token typeName
  | .invalidType typeName _ => .invalidType typeName token
  | r => r

/-- The type that is reported of a value. -/
def typeName? : Refusal → Option String
  | .invalidValue _ typeName | .invalidType typeName _ => some typeName
  | _ => none

@[simp] theorem kind_report_naming (token : Text) (r : Refusal) :
    (r.naming token).report.kind = r.report.kind := by
  cases r <;> rfl

@[simp] theorem typeName?_naming (token : Text) (r : Refusal) :
    (r.naming token).typeName? = r.typeName? := by
  cases r <;> rfl

theorem OfValue.naming {token : Text} {r : Refusal} (h : r.OfValue token) (token' : Text) :
    (r.naming token').OfValue token' := by
  cases r with
  | invalidValue token name => rfl
  | invalidType name token => rfl
  | unknownSpecifiers tokens template => exact h.elim
  | argumentCount expected received template => exact h.elim

end Refusal

namespace Format

variable {e : Escaper} {token : Text} {v : Value} {vs : List Value} {text : Text}

theorem result_scalar_of_integer (e : Escaper) (token' : Text)
    (h : (integer token v).result = .ok text) : (scalar e token' v).result = .ok text := by
  cases v with
  | null | skip | int _ => exact h
  | bool b => cases b <;> exact h
  | float _ | text _ | list _ | tuple _ | map _ _ | other _ _ _ =>
    exact absurd h (by simp [integer, Value.isNull, Escaping.refuse])

theorem result_scalar_of_float (e : Escaper) (token' : Text)
    (h : (float token v).result = .ok text) : (scalar e token' v).result = .ok text := by
  cases v with
  | null | skip => exact h
  | float x =>
    simp only [float, scalar] at h ⊢
    split_ifs at h ⊢
    · exact h
    · simp [Escaping.refuse] at h
  | bool _ | int _ | text _ | list _ | tuple _ | map _ _ | other _ _ _ =>
    exact absurd h (by simp [float, Value.isNull, Escaping.refuse])

/-- A value is refused for the same reason wherever it stands. -/
theorem result_scalar_of_error {error : CompileError} (token' : Text)
    (h : (scalar e token v).result = .error error) :
    ∃ r, error = .refusal r ∧ r.OfValue token ∧
      (scalar e token' v).result = .error (.refusal (r.naming token')) := by
  cases v with
  | null | skip | bool _ | int _ => exact absurd h (by simp [scalar])
  | text s => exact absurd h (by simp [scalar, literal, Escaping.escape])
  | float x =>
    simp only [scalar] at h ⊢
    split_ifs at h ⊢
    obtain rfl := Except.error.inj h
    exact ⟨_, rfl, rfl, rfl⟩
  | list _ | tuple _ | map _ _ | other _ _ _ =>
    obtain rfl := Except.error.inj h
    exact ⟨_, rfl, rfl, rfl⟩

theorem result_items_eq_ok_iff (token' : Text) :
    (items e token vs).result = .ok text ↔ ∃ texts : List Text,
      List.Forall₂ (fun v t => (scalar e token' v).result = .ok t) vs texts ∧
      text = joined texts := by
  simp only [items, Escaping.result_bind, bind_eq_ok_iff, Escaping.result_pure, Except.ok.injEq,
    result_each_eq_ok, result_scalar_eq_ok_iff token']
  constructor
  · rintro ⟨texts, htexts, rfl⟩
    exact ⟨texts, htexts, rfl⟩
  · rintro ⟨texts, htexts, rfl⟩
    exact ⟨texts, htexts, rfl⟩

theorem exists_result_items_iff (token' : Text) :
    (∃ text, (items e token vs).result = .ok text) ↔
      ∀ v ∈ vs, ∃ text, (scalar e token' v).result = .ok text := by
  constructor
  · rintro ⟨text, htext⟩ v hv
    obtain ⟨texts, htexts, -⟩ := (result_items_eq_ok_iff token').1 htext
    obtain ⟨i, hi, rfl⟩ := List.mem_iff_getElem.1 hv
    have hlength := htexts.length_eq
    exact ⟨_, htexts.get hi (by omega)⟩
  · intro hall
    obtain ⟨texts, htexts⟩ := exists_result_each hall
    rw [result_each_eq_ok] at htexts
    exact ⟨joined texts, (result_items_eq_ok_iff token').2 ⟨texts, htexts, rfl⟩⟩

/-- The first item that is refused decides. -/
theorem result_items_of_error (token' : Text) {before : List Value} (after : List Value)
    {error : CompileError} (hbefore : ∀ b ∈ before, ∃ text, (scalar e token' b).result = .ok text)
    (hv : (scalar e token' v).result = .error error) :
    ∃ r, error = .refusal r ∧ r.OfValue token' ∧
      (items e token (before ++ v :: after)).result = .error (.refusal (r.naming token)) := by
  obtain ⟨r, hr, htoken, hrefused⟩ := result_scalar_of_error token hv
  have htaken : ∀ b ∈ before, ∃ text, (scalar e token b).result = .ok text := by
    intro b hb
    obtain ⟨text, htext⟩ := hbefore b hb
    exact ⟨text, result_scalar_of_token token htext⟩
  refine ⟨r, hr, htoken, ?_⟩
  rw [items, Escaping.result_bind, result_each_of_error after htaken hrefused]
  rfl

theorem joined_append {parts more : List Text} (hparts : parts ≠ []) (hmore : more ≠ []) :
    joined (parts ++ more) = joined parts ++ listSeparator ++ joined more := by
  induction parts with
  | nil => exact absurd rfl hparts
  | cons part rest ih =>
    by_cases hrest : rest = []
    · simp [hrest, joined, List.intercalate_cons_of_ne_nil hmore]
    · have hall : rest ++ more ≠ [] := by simp [hrest]
      have htail := ih hrest
      unfold joined at htail ⊢
      rw [List.cons_append, List.intercalate_cons_of_ne_nil hall, htail,
        List.intercalate_cons_of_ne_nil hrest]
      simp

theorem result_items_append {more : List Value} {textMore : Text} (hvs : vs ≠ []) (hmore : more ≠ [])
    (h : (items e token vs).result = .ok text)
    (h' : (items e token more).result = .ok textMore) :
    (items e token (vs ++ more)).result = .ok (text ++ listSeparator ++ textMore) := by
  rw [result_items_eq_ok_iff token] at h h' ⊢
  obtain ⟨parts, hparts, rfl⟩ := h
  obtain ⟨others, hothers, rfl⟩ := h'
  have hne : parts ≠ [] := by
    rintro rfl
    exact hvs (List.forall₂_nil_right_iff.1 hparts)
  have hne' : others ≠ [] := by
    rintro rfl
    exact hmore (List.forall₂_nil_right_iff.1 hothers)
  exact ⟨parts ++ others, List.rel_append hparts hothers, (joined_append hne hne').symm⟩

end Format

end QueryTemplate
