import QueryTemplate.Proofs.TwoRuns
import QueryTemplate.Report

/-! Of the two ways of saying that there is no value, one in the place of the other. -/
namespace QueryTemplate

namespace Value

def unskipped : Value → Value
  | .skip => .null
  | v => v

/-- An argument without skips: neither itself, nor an item of a list or tuple, nor the value of a
key is one. -/
def withoutSkips : Value → Value
  | .skip => .null
  | .list vs => .list (vs.map unskipped)
  | .tuple vs => .tuple (vs.map unskipped)
  | .map typeName entries => .map typeName (entries.map fun entry => (entry.1, entry.2.unskipped))
  | v => v

end Value

/-- All is the same but for the type of a missing value that is refused. -/
def Comparison.upToSkips : Comparison where
  raw := Eq
  text := Eq
  error ε ε' := ε = ε' ∨ ∃ token, ε = .refusal (.invalidValue token Value.skip.typeName) ∧
    ε' = .refusal (.invalidValue token Value.null.typeName)
  raw_refl _ := rfl
  raw_append h h' := by rw [h, h']
  text_refl _ := rfl
  text_append h h' := by rw [h, h']
  error_refl _ := Or.inl rfl

namespace Format

open Comparison (upToSkips)

variable (e : Escaper) (token : Text) {α : Type}

theorem each_map {β γ : Type} (f : β → Escaping γ) (g : α → β) (l : List α) :
    each f (l.map g) = each (fun a => f (g a)) l := by
  induction l with
  | nil => rfl
  | cons a l ih => rw [List.map_cons, each, each, ih]

theorem scalar_unskipped (v : Value) : scalar e token v.unskipped = scalar e token v := by
  cases v <;> rfl

theorem items_unskipped (vs : List Value) :
    items e token (vs.map Value.unskipped) = items e token vs := by
  unfold items
  rw [each_map, each_congr fun v _ => scalar_unskipped e token v]

theorem assignments_unskipped (entries : List (Key × Value)) :
    assignments e token (entries.map fun entry => (entry.1, entry.2.unskipped)) =
      assignments e token entries := by
  unfold assignments
  rw [each_map]
  refine congrArg (· >>= _) (each_congr fun entry _ => ?_)
  unfold assignment
  rw [scalar_unskipped]

theorem integer_withoutSkips (v : Value) : integer token v.withoutSkips = integer token v := by
  cases v <;> rfl

theorem float_withoutSkips (v : Value) : float token v.withoutSkips = float token v := by
  cases v <;> rfl

theorem scalar_withoutSkips (v : Value) : scalar e token v.withoutSkips = scalar e token v := by
  cases v <;> rfl

/-- The refusals of the two missing values differ in the type alone. -/
theorem relates_refuse_skip :
    upToSkips.Relates (Eq (α := α)) (.refuse (.invalidValue token Value.skip.typeName))
      (.refuse (.invalidValue token Value.null.typeName)) :=
  .of_fail (Or.inr ⟨token, rfl, rfl⟩)

theorem relates_itemName_unskipped (v : Value) :
    upToSkips.Relates Eq (itemName token v) (itemName token v.unskipped) := by
  cases v with
  | skip => exact relates_refuse_skip token
  | _ => exact .refl (fun _ => rfl) _

theorem relates_names_unskipped (vs : List Value) :
    upToSkips.Relates Eq (names e token vs) (names e token (vs.map Value.unskipped)) := by
  have hitems : List.Forall₂ (fun v v' => v' = v.unskipped) vs (vs.map Value.unskipped) :=
    List.forall₂_map_right_iff.2 (List.forall₂_same.2 fun _ _ => rfl)
  have heach := Comparison.Relates.each hitems
    (fun v v' (hv : v' = v.unskipped) => hv ▸ relates_itemName_unskipped token v)
  unfold names
  apply heach.bind
  intro ss ss' hss
  rw [List.forall₂_eq_eq_eq] at hss
  subst hss
  exact .refl (fun _ => rfl) _

theorem relates_identifier_withoutSkips (v : Value) :
    upToSkips.Relates Eq (identifier e token v) (identifier e token v.withoutSkips) := by
  cases v with
  | skip => exact relates_refuse_skip token
  | list vs | tuple vs => exact relates_names_unskipped e token vs
  | map _ _ => exact .same_fail _
  | null | bool _ | int _ | float _ | text _ | other _ _ _ => exact .refl (fun _ => rfl) _

theorem relates_array_withoutSkips (v : Value) :
    upToSkips.Relates Eq (array e token v) (array e token v.withoutSkips) := by
  cases v with
  | skip => exact relates_refuse_skip token
  | list vs | tuple vs =>
    simp only [Value.withoutSkips, array, items_unskipped]
    exact .refl (fun _ => rfl) _
  | map typeName entries =>
    have hkeys : (entries.map fun entry => (entry.1, entry.2.unskipped)).map (·.1) =
        entries.map (·.1) := List.map_map
    have hvalues : (entries.map fun entry => (entry.1, entry.2.unskipped)).map (·.2) =
        (entries.map (·.2)).map Value.unskipped := by simp
    simp only [Value.withoutSkips, array, hkeys, hvalues, items_unskipped, assignments_unskipped]
    exact .refl (fun _ => rfl) _
  | null | bool _ | int _ | float _ | text _ | other _ _ _ => exact .refl (fun _ => rfl) _

end Format

/-- A specifier treats an argument as it would without its skips. -/
theorem Specifier.relates_withoutSkips (s : Specifier) (e : Escaper) (v : Value) :
    Comparison.upToSkips.Relates Eq (s.format e v) (s.format e v.withoutSkips) := by
  unfold Specifier.format
  cases s.kind with
  | none => exact .same_fail _
  | some k =>
    cases k with
    | integer =>
      dsimp only
      rw [Format.integer_withoutSkips]
      exact .refl (fun _ => rfl) _
    | float =>
      dsimp only
      rw [Format.float_withoutSkips]
      exact .refl (fun _ => rfl) _
    | any =>
      dsimp only
      rw [Format.scalar_withoutSkips]
      exact .refl (fun _ => rfl) _
    | array => exact Format.relates_array_withoutSkips e s.token v
    | identifier => exact Format.relates_identifier_withoutSkips e s.token v

namespace Compiler

open SpecifierTable (standard)

/-- To skip a value is to give none: the outcome is the same, but for the type of a missing value
that is refused. -/
theorem compile_withoutSkips (e : Escaper) (strict : Bool) (template : Text) (args : List Value) :
    let c : Compiler := ⟨e, standard, strict⟩
    let x := c.compile template args
    let y := c.compile template (args.map Value.withoutSkips)
    x.escaped = y.escaped ∧ x.log = y.log ∧
    ((∃ r, x.result = .ok r ∧ y.result = .ok r) ∨
      ∃ ρ ρ' : Refusal, x.result = .error (.refusal ρ) ∧ y.result = .error (.refusal ρ') ∧
        ρ.report.kind = ρ'.report.kind ∧ ρ.report.message = ρ'.report.message ∧
        (ρ = ρ' ∨ ∃ token, ρ = .invalidValue token Value.skip.typeName ∧
          ρ' = .invalidValue token Value.null.typeName)) := by
  intro c x y
  have hargs : List.Forall₂ (fun v v' => v' = v.withoutSkips) args
      (args.map Value.withoutSkips) :=
    List.forall₂_map_right_iff.2 (List.forall₂_same.2 fun _ _ => rfl)
  have hcompared := Comparison.compile_compared (K := .upToSkips) c template hargs rfl
    fun s _ v v' (hv : v' = v.withoutSkips) => hv ▸ s.relates_withoutSkips e v
  obtain ⟨hescaped, ⟨t, t', ht, hx, hy⟩ | ⟨hlog, error, error', herror, hx, hy⟩⟩ := hcompared
  · have hsame : t = t' := ht
    subst hsame
    exact ⟨hescaped, (log_of_ok hx).trans (log_of_ok hy).symm, Or.inl ⟨_, hx, hy⟩⟩
  · refine ⟨hescaped, hlog, Or.inr ?_⟩
    rcases herror with rfl | ⟨token, rfl, rfl⟩
    · rcases (compile_ends e strict template args).ok_or_refused with ⟨r, hr⟩ | ⟨ρ, hρ⟩
      · exact absurd (hx.symm.trans hr) (by simp)
      · have herror : error = .refusal ρ := Except.error.inj (hx.symm.trans hρ)
        exact ⟨ρ, ρ, hρ, herror ▸ hy, rfl, rfl, Or.inl rfl⟩
    · exact ⟨_, _, hx, hy, rfl, rfl, Or.inr ⟨token, rfl, rfl⟩⟩

/-- A skip among names is refused as a missing value is. -/
example :
    let c : Compiler := ⟨.mysql, standard, true⟩
    (c.compile "?#".toList [.list [.text ['a'], .skip]]).result =
        .error (.refusal (.invalidValue "?#".toList "Skip")) ∧
      (c.compile "?#".toList [.list [.text ['a'], .null]]).result =
        .error (.refusal (.invalidValue "?#".toList "NoneType")) := by
  constructor <;> rfl

end Compiler
end QueryTemplate
