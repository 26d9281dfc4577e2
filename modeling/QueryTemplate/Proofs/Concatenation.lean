import QueryTemplate.Proofs.Outcomes
import QueryTemplate.Proofs.Seams

/-! Two templates compiled as one: the placeholders, the arguments and the texts of either. -/
namespace QueryTemplate

variable {t₁ t₂ : Text} {a₁ a₂ : List Value}

/-- The placeholder where it stands behind `count` more placeholders and `offset` more
characters. -/
def Placeholder.moved (count offset : Nat) (p : Placeholder) : Placeholder :=
  ⟨p.token, p.kind, p.position + count, p.start + offset, p.stop + offset⟩

namespace SpecifierTable

/-- A match looks no further than the character after its question mark. -/
theorem standard_apart (h : t₁.getLast? ≠ some '?') : standard.matcher.Apart t₁ t₂ := by
  intro u hu hne
  obtain ⟨b, rest, rfl⟩ := List.exists_cons_of_ne_nil hne
  by_cases hb : b = '?'
  · subst hb
    cases rest with
    | nil =>
      obtain ⟨before, rfl⟩ := hu
      exact absurd List.getLast?_concat h
    | cons c rest =>
      show standard.matcher ('?' :: c :: (rest ++ t₂)) = standard.matcher ('?' :: c :: rest)
      by_cases hc : c ∈ tokenLetters
      · rw [standard_matcher_of_letter hc, standard_matcher_of_letter hc]
      · rw [standard_matcher_of_other hc, standard_matcher_of_other hc]
  · rw [List.cons_append, standard_matcher_of_ne hb, standard_matcher_of_ne hb]

theorem span_moved {template : Text} {t : SpecifierTable} {p : Placeholder}
    (hp : p ∈ t.scan template) (count offset : Nat) :
    (p.moved count offset).span = p.span.moved offset := by
  obtain ⟨-, hstart, hstop, -⟩ := mem_scan hp
  unfold Placeholder.moved
  rw [hstart, hstop]
  rfl

/-- The placeholders of the second template come after those of the first. -/
theorem scan_append (t₂ : Text) (h : t₁.getLast? ≠ some '?') :
    standard.scan (t₁ ++ t₂) = standard.scan t₁ ++
      (standard.scan t₂).map (Placeholder.moved (standard.scan t₁).length t₁.length) := by
  have hlen : (standard.scan t₁).length = (standard.matcher.spans t₁).length := List.length_mapIdx
  have hleft : (standard.matcher.spans t₁).mapIdx (standard.placeholderAt (t₁ ++ t₂)) =
      standard.scan t₁ := by
    refine List.mapIdx_eq_mapIdx_iff.2 fun i hi => ?_
    have hstop := Matcher.stop_le_of_mem_spans standard_single.proper (List.getElem_mem hi)
    unfold placeholderAt
    rw [Span.of_append_left hstop]
  have hright : ∀ n, ((standard.matcher.spans t₂).map (·.moved t₁.length)).mapIdx
      (fun i => standard.placeholderAt (t₁ ++ t₂) (i + n)) =
        (standard.scan t₂).map (Placeholder.moved n t₁.length) := by
    intro n
    refine List.mapIdx_eq_iff.2 fun i => ?_
    rw [List.getElem?_map, scan, scanBy, List.getElem?_mapIdx, List.getElem?_map, Option.map_map,
      Option.map_map]
    refine congrArg (Option.map · _) (funext fun s => ?_)
    unfold Function.comp placeholderAt
    rw [Span.of_append_moved]
    rfl
  have hapart : standard.matcher.Apart t₁ t₂ := standard_apart h
  show (standard.matcher.spans (t₁ ++ t₂)).mapIdx (standard.placeholderAt (t₁ ++ t₂)) = _
  rw [Matcher.spans_append standard_single hapart, List.mapIdx_append, hleft, hright, hlen]

/-- Two templates without unknown tokens have none together. -/
theorem unknown_append (h : t₁.getLast? ≠ some '?') (h₁ : standard.unknown t₁ = [])
    (h₂ : standard.unknown t₂ = []) : standard.unknown (t₁ ++ t₂) = [] := by
  rw [standard_unknown_eq_nil_iff] at h₁ h₂ ⊢
  intro k hk
  by_cases hfirst : k < t₁.length
  · have hnext : k + 1 < t₁.length := by
      by_contra hend
      have hlast : k = t₁.length - 1 := by omega
      rw [List.getElem?_append_left hfirst, hlast, ← List.getLast?_eq_getElem?] at hk
      exact h hk
    rw [List.getElem?_append_left hfirst] at hk
    rw [List.getElem?_append_left hnext]
    exact h₁ k hk
  · obtain ⟨j, rfl⟩ := Nat.exists_eq_add_of_le (Nat.le_of_not_lt hfirst)
    rw [List.getElem?_append_right (Nat.le_add_right _ _), Nat.add_sub_cancel_left] at hk
    rw [Nat.add_assoc, List.getElem?_append_right (Nat.le_add_right _ _), Nat.add_sub_cancel_left]
    exact h₂ j hk

section Formatted

variable {e : Escaper} {p : Placeholder}

theorem formatted_append_left (t : SpecifierTable) (hp : p.position < a₁.length) :
    t.formatted e (a₁ ++ a₂) p = t.formatted e a₁ p := by
  unfold formatted
  rw [List.getElem?_append_left hp]

theorem formatted_append_moved (t : SpecifierTable) (offset : Nat) :
    t.formatted e (a₁ ++ a₂) (p.moved a₁.length offset) = t.formatted e a₂ p := by
  have hat : (a₁ ++ a₂)[p.position + a₁.length]? = a₂[p.position]? := by
    rw [List.getElem?_append_right (Nat.le_add_left _ _), Nat.add_sub_cancel]
  unfold formatted Placeholder.moved
  rw [hat]

end Formatted

/-- The edits that fill the placeholders of the first template, then those for the second. -/
theorem edits_append (h : t₁.getLast? ≠ some '?') {w w₁ w₂ : Placeholder → Text}
    (hw₁ : ∀ p ∈ standard.scan t₁, w p = w₁ p)
    (hw₂ : ∀ p ∈ standard.scan t₂, w (p.moved (standard.scan t₁).length t₁.length) = w₂ p) :
    Placeholder.edits w (standard.scan (t₁ ++ t₂)) =
      Placeholder.edits w₁ (standard.scan t₁) ++
        (Placeholder.edits w₂ (standard.scan t₂)).map (Text.movedEdit t₁.length) := by
  unfold Placeholder.edits
  rw [scan_append t₂ h, List.map_append, List.map_map, List.map_map]
  congr 1
  · exact List.map_congr_left fun p hp => by rw [hw₁ p hp]
  · refine List.map_congr_left fun p hp => ?_
    rw [Function.comp_apply, hw₂ p hp, span_moved hp]
    rfl

end SpecifierTable

namespace Compiler

open SpecifierTable (standard)

/-- Each argument finds its placeholder when two templates are filled as one. -/
theorem substituted_append {c : Compiler} (htable : c.table = standard)
    (hseam : t₁.getLast? ≠ some '?') (hlen : a₁.length = (standard.scan t₁).length)
    {s₁ s₂ : Text} (h₁ : (c.substituted t₁ a₁).result = .ok s₁)
    (h₂ : (c.substituted t₂ a₂).result = .ok s₂) :
    (c.substituted (t₁ ++ t₂) (a₁ ++ a₂)).result = .ok (s₁ ++ s₂) := by
  obtain ⟨-, w₁, hw₁, rfl⟩ := (substituted_eq_ok_iff htable).1 h₁
  obtain ⟨hcount, w₂, hw₂, rfl⟩ := (substituted_eq_ok_iff htable).1 h₂
  have hscan := SpecifierTable.scan_append t₂ hseam
  have hleft : ∀ p ∈ standard.scan t₁,
      (standard.formatted c.escaper (a₁ ++ a₂) p).result = .ok (w₁ p) := by
    intro p hp
    have hpos : p.position < a₁.length := hlen ▸ SpecifierTable.position_lt_of_mem_scan hp
    rw [SpecifierTable.formatted_append_left standard hpos]
    exact hw₁ p hp
  have hright : ∀ p ∈ standard.scan t₂, (standard.formatted c.escaper (a₁ ++ a₂)
      (p.moved (standard.scan t₁).length t₁.length)).result = .ok (w₂ p) := by
    intro p hp
    rw [← hlen, SpecifierTable.formatted_append_moved]
    exact hw₂ p hp
  have hall : ∀ p ∈ standard.scan (t₁ ++ t₂), ∃ text,
      (standard.formatted c.escaper (a₁ ++ a₂) p).result = .ok text := by
    intro p hp
    rw [hscan, List.mem_append, List.mem_map] at hp
    rcases hp with hp | ⟨q, hq, rfl⟩
    · exact ⟨w₁ p, hleft p hp⟩
    · exact ⟨w₂ q, hright q hq⟩
  choose! w hw using hall
  have hedits : Placeholder.edits w (standard.scan (t₁ ++ t₂)) =
      Placeholder.edits w₁ (standard.scan t₁) ++
        (Placeholder.edits w₂ (standard.scan t₂)).map (Text.movedEdit t₁.length) := by
    apply SpecifierTable.edits_append hseam
    · intro p hp
      have hmem : p ∈ standard.scan (t₁ ++ t₂) := hscan ▸ List.mem_append_left _ hp
      exact Except.ok.inj ((hw p hmem).symm.trans (hleft p hp))
    · intro p hp
      have hmem : p.moved (standard.scan t₁).length t₁.length ∈ standard.scan (t₁ ++ t₂) :=
        hscan ▸ List.mem_append_right _ (List.mem_map_of_mem hp)
      exact Except.ok.inj ((hw _ hmem).symm.trans (hright p hp))
  have hinside : ∀ e ∈ Placeholder.edits w₁ (standard.scan t₁), e.1.stop ≤ t₁.length := by
    intro e he
    obtain ⟨p, hp, rfl⟩ := List.mem_map.1 he
    exact Matcher.stop_le_of_mem_spans SpecifierTable.standard_single.proper
      (SpecifierTable.mem_scan hp).1
  refine (substituted_eq_ok_iff htable).2 ⟨?_, w, hw, ?_⟩
  · rw [hscan, List.length_append, List.length_append, List.length_map, hlen]
    unfold Miscounted
    rw [Nat.add_lt_add_iff_left, Nat.add_lt_add_iff_left]
    exact hcount
  · rw [hedits, Text.edited_append hinside]

/-- Two templates compile as one to what they compile to by themselves, unless the first ends with
a question mark; and unless two braces face each other at the seam of the filled templates, the
queries and the blocks are put together, too. -/
theorem compile_append (e : Escaper) (strict : Bool) (hseam : t₁.getLast? ≠ some '?')
    (hlen : a₁.length = (standard.scan t₁).length) {r₁ r₂ : Compilation} :
    let c : Compiler := ⟨e, standard, strict⟩
    (c.compile t₁ a₁).result = .ok r₁ → (c.compile t₂ a₂).result = .ok r₂ →
      c.validate (t₁ ++ t₂) = .ok () ∧
      standard.scan (t₁ ++ t₂) = standard.scan t₁ ++
        (standard.scan t₂).map (Placeholder.moved (standard.scan t₁).length t₁.length) ∧
      ∃ s₁ s₂ r, (c.substituted t₁ a₁).result = .ok s₁ ∧ (c.substituted t₂ a₂).result = .ok s₂ ∧
        (c.substituted (t₁ ++ t₂) (a₁ ++ a₂)).result = .ok (s₁ ++ s₂) ∧
        (c.compile (t₁ ++ t₂) (a₁ ++ a₂)).result = .ok r ∧
        r.placeholders = r₁.placeholders ++
          r₂.placeholders.map (Placeholder.moved r₁.placeholderCount t₁.length) ∧
        (¬ Block.Facing s₁ s₂ →
          r.query = r₁.query ++ r₂.query ∧
          r.blocks = r₁.blocks ++ r₂.blocks.map (Block.moved s₁.length) ∧
          r.blocksKept = r₁.blocksKept + r₂.blocksKept ∧
          r.blocksElided = r₁.blocksElided + r₂.blocksElided) := by
  intro c h₁ h₂
  obtain ⟨hvalid₁, s₁, hs₁, rfl⟩ := exists_substituted h₁
  obtain ⟨hvalid₂, s₂, hs₂, rfl⟩ := exists_substituted h₂
  have hs : (c.substituted (t₁ ++ t₂) (a₁ ++ a₂)).result = .ok (s₁ ++ s₂) :=
    substituted_append rfl hseam hlen hs₁ hs₂
  have hvalid : c.validate (t₁ ++ t₂) = .ok () := by
    rw [validate_eq_ok_iff] at hvalid₁ hvalid₂ ⊢
    exact SpecifierTable.unknown_append hseam hvalid₁ hvalid₂
  have hscan := SpecifierTable.scan_append t₂ hseam
  have hresult := (compile_of_valid hvalid (a₁ ++ a₂)).2
  rw [hs] at hresult
  refine ⟨hvalid, hscan, s₁, s₂, _, hs₁, hs₂, hs, hresult, hscan, fun hfacing => ?_⟩
  have hapart := Block.matcher_apart hfacing
  have hfind := Block.find_append omissionToken hapart
  have hcount : ∀ f : Bool → Bool, (c.resolved (t₁ ++ t₂) (s₁ ++ s₂)).blocks.countP (f ·.elided) =
      (Block.find omissionToken s₁).countP (f ·.elided) +
        (Block.find omissionToken s₂).countP (f ·.elided) := by
    intro f
    have hmoved : ((Block.find omissionToken s₂).map (Block.moved s₁.length)).countP (f ·.elided) =
        (Block.find omissionToken s₂).countP (f ·.elided) := by
      rw [List.countP_map]
      rfl
    unfold resolved
    rw [hfind, List.countP_append, hmoved]
  exact ⟨Block.resolve_append omissionToken hapart, hfind, hcount not, hcount id⟩

/-- A block that is dropped, then one that is kept. -/
theorem compile_append_conditions :
    let c : Compiler := ⟨.mysql, standard, true⟩
    let t₁ := "a = ?d\x7b and b = ?d\x7d".toList
    let t₂ := " and c in (?a)\x7b and ?# = ?d\x7d".toList
    let a₁ := [.int 5, .null]
    let a₂ := [.list [.int 1, .int 2], .text ['e'], .int 3]
    t₁.getLast? ≠ some '?' ∧ a₁.length = (standard.scan t₁).length ∧
    (∃ r₁, (c.compile t₁ a₁).result = .ok r₁) ∧ (∃ r₂, (c.compile t₂ a₂).result = .ok r₂) ∧
    ∃ r, (c.compile (t₁ ++ t₂) (a₁ ++ a₂)).result = .ok r ∧
      r.query = "a = 5 and c in (1, 2) and \x60e\x60 = 3".toList ∧
      r.blocksKept = 1 ∧ r.blocksElided = 1 := by
  intro c t₁ t₂ a₁ a₂
  let s₁ := "a = 5\x7b and b = NULL\x7d".toList
  let s₂ := " and c in (1, 2)\x7b and \x60e\x60 = 3\x7d".toList
  have hseam : t₁.getLast? ≠ some '?' := by decide
  have hlen : a₁.length = (standard.scan t₁).length := by rfl
  have h₁ : (c.compile t₁ a₁).result = .ok (c.resolved t₁ s₁) := by rfl
  have h₂ : (c.compile t₂ a₂).result = .ok (c.resolved t₂ s₂) := by rfl
  obtain ⟨-, -, s₁', s₂', r, hs₁, hs₂, -, hr, -, hblocks⟩ :=
    compile_append .mysql true hseam hlen h₁ h₂
  obtain rfl : s₁ = s₁' := Except.ok.inj hs₁
  obtain rfl : s₂ = s₂' := Except.ok.inj hs₂
  obtain ⟨hquery, -, hkept, helided⟩ := hblocks (by decide)
  refine ⟨hseam, hlen, ⟨_, h₁⟩, ⟨_, h₂⟩, r, hr, ?_, ?_, ?_⟩
  · exact hquery.trans (by decide)
  · exact hkept.trans (by decide)
  · exact helided.trans (by decide)

/-- A block may open in one template and be closed in the next. -/
example :
    let c : Compiler := ⟨.mysql, standard, true⟩
    let query (template : String) (args : List Value) :=
      (c.compile template.toList args).result.toOption.map Compilation.query
    query "\x7b?d" [.null] = some "NULL".toList ∧ query " x\x7d" [] = some " x".toList ∧
      query "\x7b?d x\x7d" [.null] = some [] := by decide

end Compiler
end QueryTemplate
