import QueryTemplate.Proofs.TwoRuns

/-! What the contents of strings have no part in: success, errors and log lines. -/
namespace QueryTemplate

/-- Do two values differ in nothing but what stands in their strings, none of which is empty where
it differs? Keys are no contents: they are the same. -/
inductive Value.Alike : Value → Value → Prop
  | same (v : Value) : Alike v v
  | text {s s' : Text} (hs : s ≠ []) (hs' : s' ≠ []) : Alike (.text s) (.text s')
  | list {vs vs' : List Value} (h : List.Forall₂ Alike vs vs') : Alike (.list vs) (.list vs')
  | tuple {vs vs' : List Value} (h : List.Forall₂ Alike vs vs') : Alike (.tuple vs) (.tuple vs')
  | map {typeName : String} {entries entries' : List (Key × Value)}
    (hkeys : entries.map (·.1) = entries'.map (·.1))
    (hvalues : List.Forall₂ Alike (entries.map (·.2)) (entries'.map (·.2))) :
    Alike (.map typeName entries) (.map typeName entries')

/-- Errors are the same; texts and what is escaped for them may be anything. -/
def Comparison.ofErrors : Comparison where
  raw _ _ := True
  text _ _ := True
  error := Eq
  raw_refl _ := trivial
  raw_append _ _ := trivial
  text_refl _ := trivial
  text_append _ _ := trivial
  error_refl _ := rfl

namespace Value.Alike

open Comparison (ofErrors)
open Format (name items assignment assignments itemName names)

variable (e : Escaper) (token : Text) {v v' : Value} {vs vs' : List Value}
  {entries entries' : List (Key × Value)}

/-- A name is written, whatever it is. -/
theorem relates_name (s s' : Text) :
    ofErrors.Relates (fun _ _ => True) (name e s) (name e s') := .value trivial trivial

theorem relates_scalar (h : v.Alike v') :
    ofErrors.Relates (fun _ _ => True) (Format.scalar e token v) (Format.scalar e token v') := by
  cases h with
  | same => exact .refl (fun _ => trivial) _
  | text => exact .value trivial trivial
  | list | tuple | map => exact .same_fail _

theorem relates_items (h : List.Forall₂ Value.Alike vs vs') :
    ofErrors.Relates (fun _ _ => True) (items e token vs) (items e token vs') :=
  (Comparison.Relates.each h fun _ _ hv => hv.relates_scalar e token).bind_pure
    fun _ _ _ => trivial

/-- The key is a name, and as such is written in any case. -/
theorem relates_assignment {a b : Key × Value} (h : a.2.Alike b.2) :
    ofErrors.Relates (fun _ _ => True) (assignment e token a) (assignment e token b) := by
  unfold assignment
  apply (relates_name e a.1.write b.1.write).bind
  intro column column' _
  exact (h.relates_scalar e token).bind_pure fun _ _ _ => trivial

theorem relates_assignments
    (h : List.Forall₂ Value.Alike (entries.map (·.2)) (entries'.map (·.2))) :
    ofErrors.Relates (fun _ _ => True) (assignments e token entries)
      (assignments e token entries') := by
  rw [List.forall₂_map_left_iff, List.forall₂_map_right_iff] at h
  have heach := Comparison.Relates.each h fun a b hab => relates_assignment e token hab
  exact heach.bind_pure fun _ _ _ => trivial

theorem relates_array (h : v.Alike v') :
    ofErrors.Relates (fun _ _ => True) (Format.array e token v) (Format.array e token v') := by
  cases h with
  | same => exact .refl (fun _ => trivial) _
  | text => exact .same_fail _
  | list h | tuple h => exact relates_items e token h
  | map hkeys hvalues =>
    simp only [Format.array, hkeys]
    cases ArrayShape.ofKeys _ with
    | list => exact relates_items e token hvalues
    | map => exact relates_assignments e token hvalues

theorem relates_itemName (h : v.Alike v') :
    ofErrors.Relates (fun _ _ => True) (itemName token v) (itemName token v') := by
  cases h with
  | same => exact .refl (fun _ => trivial) _
  | text hs hs' =>
    obtain ⟨c, s, rfl⟩ := List.exists_cons_of_ne_nil hs
    obtain ⟨c', s', rfl⟩ := List.exists_cons_of_ne_nil hs'
    exact .of_pure trivial
  | list | tuple | map => exact .same_fail _

theorem relates_names (h : List.Forall₂ Value.Alike vs vs') :
    ofErrors.Relates (fun _ _ => True) (names e token vs) (names e token vs') := by
  have heach := Comparison.Relates.each h fun _ _ hv => hv.relates_itemName token
  unfold names
  apply heach.bind
  intro ss ss' hss
  exact (Comparison.Relates.each hss fun s s' _ => relates_name e s s').bind_pure
    fun _ _ _ => trivial

theorem relates_identifier (h : v.Alike v') :
    ofErrors.Relates (fun _ _ => True) (Format.identifier e token v) (Format.identifier e token v') := by
  cases h with
  | same => exact .refl (fun _ => trivial) _
  | text hs hs' =>
    obtain ⟨c, s, rfl⟩ := List.exists_cons_of_ne_nil hs
    obtain ⟨c', s', rfl⟩ := List.exists_cons_of_ne_nil hs'
    exact relates_name e (c :: s) (c' :: s')
  | list h | tuple h => exact relates_names e token h
  | map => exact .same_fail _

theorem relates_integer (h : v.Alike v') :
    ofErrors.Relates (fun _ _ => True) (Format.integer token v) (Format.integer token v') := by
  cases h with
  | same => exact .refl (fun _ => trivial) _
  | text | list | tuple | map => exact .same_fail _

theorem relates_float (h : v.Alike v') :
    ofErrors.Relates (fun _ _ => True) (Format.float token v) (Format.float token v') := by
  cases h with
  | same => exact .refl (fun _ => trivial) _
  | text | list | tuple | map => exact .same_fail _

/-- No specifier looks into a string: values that are alike are all written, or refused for one
reason. -/
theorem relates_format (s : Specifier) (h : v.Alike v') :
    ofErrors.Relates (fun _ _ => True) (s.format e v) (s.format e v') := by
  unfold Specifier.format
  cases s.kind with
  | none => exact .same_fail _
  | some k =>
    cases k with
    | integer => exact h.relates_integer s.token
    | float => exact h.relates_float s.token
    | array => exact h.relates_array e s.token
    | identifier => exact h.relates_identifier e s.token
    | any => exact h.relates_scalar e s.token

end Value.Alike

namespace Compiler

open SpecifierTable (standard)

/-- Calls with arguments that are alike both succeed, or both fail with one refusal, and so with one
report of it, and one log; and what a call logs that succeeds are the numbers of its placeholders,
its blocks and its elided blocks. -/
theorem compile_discreet (e : Escaper) (strict : Bool) (template : Text) {args args' : List Value}
    (h : List.Forall₂ Value.Alike args args') :
    let c : Compiler := ⟨e, standard, strict⟩
    let x := c.compile template args
    let y := c.compile template args'
    ((∃ r r', x.result = .ok r ∧ y.result = .ok r') ∨
      (x.log = y.log ∧ ∃ ρ : Refusal, x.result = .error (.refusal ρ) ∧
        y.result = .error (.refusal ρ))) ∧
    ∀ call ∈ [x, y], ∀ r, call.result = .ok r →
      call.log =
        [compiledLine r.placeholders.length r.blocks.length (r.blocks.countP (·.elided))] := by
  intro c x y
  obtain ⟨-, hcompared⟩ := Comparison.compile_compared (K := .ofErrors) c template h (.same .null)
    fun s _ v v' hv => hv.relates_format e s
  constructor
  · rcases hcompared with ⟨t, t', -, hx, hy⟩ | ⟨hlog, error, error', herror, hx, hy⟩
    · exact Or.inl ⟨_, _, hx, hy⟩
    · right
      have hsame : error = error' := herror
      subst hsame
      rcases (compile_ends e strict template args).ok_or_refused with ⟨r, hr⟩ | ⟨ρ, hρ⟩
      · exact absurd (hx.symm.trans hr) (by simp)
      · have herror : error = .refusal ρ := Except.error.inj (hx.symm.trans hρ)
        exact ⟨hlog, ρ, hρ, herror ▸ hy⟩
  · intro call hcall r hr
    simp only [List.mem_cons, List.not_mem_nil, or_false] at hcall
    rcases hcall with rfl | rfl
    · exact log_of_ok hr
    · exact log_of_ok hr

/-- Neither the PIN nor the text in the place of a number shows in the refusal. -/
theorem compile_discreet_refused :
    let c : Compiler := ⟨.mysql, standard, true⟩
    let args := [.map "dict" [(.text "pin".toList, .text "1234".toList)], .text "five".toList]
    let args' := [.map "dict" [(.text "pin".toList, .text "'".toList)], .text "\x7b".toList]
    List.Forall₂ Value.Alike args args' ∧
      ∃ ρ : Refusal, ρ = .invalidValue "?d".toList "str" ∧
        (c.compile "?a ?d".toList args).result = .error (.refusal ρ) ∧
        (c.compile "?a ?d".toList args').result = .error (.refusal ρ) := by
  intro c args args'
  have hargs : List.Forall₂ Value.Alike args args' :=
    .cons (.map rfl (.cons (.text (by decide) (by decide)) .nil))
      (.cons (.text (by decide) (by decide)) .nil)
  have hrefused : (c.compile "?a ?d".toList args).result =
      .error (.refusal (.invalidValue "?d".toList "str")) := by rfl
  refine ⟨hargs, _, rfl, hrefused, ?_⟩
  obtain ⟨⟨r, r', hr, -⟩ | ⟨-, ρ, hρ, hρ'⟩, -⟩ :=
    compile_discreet .mysql true "?a ?d".toList hargs
  · exact absurd (hrefused.symm.trans hr) (by simp)
  · have hsame : Refusal.invalidValue "?d".toList "str" = ρ :=
      CompileError.refusal.inj (Except.error.inj (hrefused.symm.trans hρ))
    rw [hsame]
    exact hρ'

end Compiler
end QueryTemplate
