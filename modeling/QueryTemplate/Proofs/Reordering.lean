import QueryTemplate.Proofs.Outcomes

/-! The order of the specifiers, which is that of the passes: how little it matters. -/
namespace QueryTemplate

section Tokens

variable {specs specs' : List Specifier} {token : Text} {s : Specifier}

theorem find?_token_eq_some_iff (hd : specs.Pairwise fun s s' => s.token ≠ s'.token) :
    specs.find? (·.token == token) = some s ↔ s ∈ specs ∧ s.token = token := by
  induction specs with
  | nil => simp
  | cons s' specs ih =>
    obtain ⟨hs', hrest⟩ := List.pairwise_cons.1 hd
    by_cases htoken : s'.token = token
    · rw [List.find?_cons_of_pos (by simpa using htoken)]
      constructor
      · rintro ⟨⟩
        exact ⟨List.mem_cons_self, htoken⟩
      · rintro ⟨hs, heq⟩
        rcases List.mem_cons.1 hs with rfl | hs
        · rfl
        · exact absurd (htoken.trans heq.symm) (hs' s hs)
    · rw [List.find?_cons_of_neg (by simpa using htoken), ih hrest, List.mem_cons]
      constructor
      · rintro ⟨hs, heq⟩
        exact ⟨Or.inr hs, heq⟩
      · rintro ⟨rfl | hs, heq⟩
        · exact absurd heq htoken
        · exact ⟨hs, heq⟩

/-- Where tokens differ, the specifier of a token does not depend on the order. -/
theorem find?_token_perm (h : specs.Perm specs')
    (hd : specs'.Pairwise fun s s' => s.token ≠ s'.token) (token : Text) :
    specs.find? (·.token == token) = specs'.find? (·.token == token) := by
  have hd' : specs.Pairwise fun s s' => s.token ≠ s'.token := h.symm.pairwise hd Ne.symm
  refine Option.ext fun s => ?_
  rw [find?_token_eq_some_iff hd', find?_token_eq_some_iff hd, h.mem_iff]

end Tokens

section Passes

open Format (each)
open Placeholder (visits)

variable {e : Escaper} {value : Placeholder → Value} {specs specs' : List Specifier}
  {segments : List Segment}

theorem formatBy_perm (h : specs.Perm specs')
    (hd : specs'.Pairwise fun s s' => s.token ≠ s'.token) (p : Placeholder) :
    formatBy e value specs p = formatBy e value specs' p := by
  unfold formatBy
  rw [find?_token_perm h hd]

/-- Passes in which every value is accepted escape, visit by visit, what each value escapes. -/
theorem raw_passes_of_accepted (hd : specs.Pairwise fun s s' => s.token ≠ s'.token)
    (h : ∀ p ∈ visits specs (Segment.holes segments),
      ∃ text, (formatBy e value specs p).result = .ok text) :
    (passes e value specs segments).raw =
      (visits specs (Segment.holes segments)).flatMap
        fun p => (formatBy e value specs p).raw := by
  have heach : ∃ texts, each (formatBy e value specs) (visits specs (Segment.holes segments)) =
      ⟨(visits specs (Segment.holes segments)).flatMap fun p => (formatBy e value specs p).raw,
        .ok texts⟩ :=
    Format.each_of_ok fun p hp => by
      obtain ⟨text, htext⟩ := h p hp
      exact ⟨text, Escaping.ext rfl htext⟩
  obtain ⟨texts, htexts⟩ := heach
  have htrace : (passes e value specs segments).trace =
      (each (formatBy e value specs) (visits specs (Segment.holes segments))).trace :=
    trace_passes hd
  rw [htexts] at htrace
  have hraw := congrArg Escaping.raw htrace
  rwa [Escaping.raw_trace, Escaping.raw_trace] at hraw

variable (e value) in
/-- Passes for different tokens may change places: they fill the placeholders with the same texts and
escape the same strings, or some value is refused in either order. -/
theorem passes_perm (h : specs.Perm specs')
    (hd : specs'.Pairwise fun s s' => s.token ≠ s'.token)
    (htok : ∀ p ∈ Segment.holes segments, ∃ s ∈ specs', s.token = p.token)
    (hpos : (Segment.holes segments).Pairwise fun p q => p.position < q.position) :
    let x := passes e value specs segments
    let y := passes e value specs' segments
    (∃ w, x.result = .ok (segments.map (Segment.fillWith w)) ∧
      y.result = .ok (segments.map (Segment.fillWith w)) ∧ x.raw.Perm y.raw) ∨
    ((∃ p ∈ Segment.holes segments, ∃ error,
        (formatBy e value specs' p).result = .error error ∧ x.result = .error error) ∧
      ∃ p ∈ Segment.holes segments, ∃ error,
        (formatBy e value specs' p).result = .error error ∧ y.result = .error error) := by
  intro x y
  have hd' : specs.Pairwise fun s s' => s.token ≠ s'.token := h.symm.pairwise hd Ne.symm
  have htok' : ∀ p ∈ Segment.holes segments, ∃ s ∈ specs, s.token = p.token := by
    intro p hp
    obtain ⟨s, hs, htoken⟩ := htok p hp
    exact ⟨s, h.mem_iff.2 hs, htoken⟩
  have hformat : ∀ p, formatBy e value specs p = formatBy e value specs' p := formatBy_perm h hd
  by_cases hfail : ∃ p ∈ Segment.holes segments, ∃ error,
      (formatBy e value specs' p).result = .error error
  · right
    constructor
    · obtain ⟨p, hp, error, hpe, hx, -⟩ := result_passes_of_error e value specs segments htok' hpos
        (by simpa only [hformat] using hfail)
      exact ⟨p, hp, error, hformat p ▸ hpe, hx⟩
    · obtain ⟨p, hp, error, hpe, hy, -⟩ := result_passes_of_error e value specs' segments htok hpos
        hfail
      exact ⟨p, hp, error, hpe, hy⟩
  · left
    have hok : ∀ p ∈ Segment.holes segments,
        ∃ text, (formatBy e value specs' p).result = .ok text := by
      intro p hp
      cases hp' : (formatBy e value specs' p).result with
      | error error => exact absurd ⟨p, hp, error, hp'⟩ hfail
      | ok text => exact ⟨text, rfl⟩
    have hperm := Placeholder.visits_perm hd' htok'
    have hperm' := Placeholder.visits_perm hd htok
    have hx : x.raw = (visits specs (Segment.holes segments)).flatMap
        fun p => (formatBy e value specs' p).raw := by
      simp only [← hformat]
      apply raw_passes_of_accepted hd'
      intro p hp
      rw [hformat]
      exact hok p (hperm.mem_iff.1 hp)
    have hy : y.raw = (visits specs' (Segment.holes segments)).flatMap
        fun p => (formatBy e value specs' p).raw :=
      raw_passes_of_accepted hd fun p hp => hok p (hperm'.mem_iff.1 hp)
    choose! w hw using hok
    refine ⟨w, ?_, result_passes_of_ok hw, ?_⟩
    · exact result_passes_of_ok fun p hp => by rw [hformat, hw p hp]
    · rw [hx, hy]
      exact (hperm.trans hperm'.symm).flatMap_right _

end Passes

namespace SpecifierTable

/-- The five specifiers in some order, with that of names before that of any value. -/
structure Reordered (t : SpecifierTable) : Prop where
  perm : t.specifiers.Perm standard.specifiers
  names_first : [Specifier.identifier, Specifier.any].Sublist t.specifiers

instance (t : SpecifierTable) : Decidable t.Reordered :=
  decidable_of_iff (t.specifiers.Perm standard.specifiers ∧
      [Specifier.identifier, Specifier.any].Sublist t.specifiers)
    ⟨fun h => ⟨h.1, h.2⟩, fun h => ⟨h.perm, h.names_first⟩⟩

theorem matchLengths_eq_filterMap {t : SpecifierTable} (ht : t.specifiers ≠ []) (text : Text) :
    t.matchLengths text = t.specifiers.filterMap (·.matchLength? text) := by
  unfold matchLengths
  rw [if_neg (by simpa using ht)]

theorem matchLengths_eq_nil_of_matcher {t : SpecifierTable} {text : Text}
    (h : t.matcher text = []) : t.matchLengths text = [] := by
  unfold matcher at h
  split at h
  next hnone => exact hnone
  next => exact absurd h (List.cons_ne_nil _ _)
  next => exact absurd h (List.cons_ne_nil _ _)

/-- Two specifiers match at one place only where a question mark has a hash after it. -/
theorem standard_matchLengths_cases (text : Text) :
    (standard.matchLengths text).length ≤ 1 ∨ ∃ rest, text = '?' :: '#' :: rest := by
  have hother : ∀ b rest, b ≠ '?' → (standard.matchLengths (b :: rest)).length ≤ 1 := by
    intro b rest hb
    rw [matchLengths_eq_nil_of_matcher (standard_matcher_of_ne hb rest)]
    exact Nat.zero_le 1
  rcases text with _ | ⟨b, _ | ⟨c, rest⟩⟩
  · exact Or.inl (by decide)
  · left
    by_cases hb : b = '?'
    · subst hb
      decide
    · exact hother b [] hb
  · by_cases hb : b = '?'
    · subst hb
      by_cases hc : c ∈ tokenLetters
      · simp only [tokenLetters, List.mem_cons, List.not_mem_nil, or_false] at hc
        rcases hc with rfl | rfl | rfl | rfl | rfl | rfl | rfl
        case inr.inr.inr.inr.inr.inr => exact Or.inr ⟨rest, rfl⟩
        all_goals exact Or.inl (Nat.le_refl 1)
      · left
        rw [standard_matchLengths_of_other hc]
        split_ifs
        · exact Nat.zero_le 1
        · exact Nat.le_refl 1
    · exact Or.inl (hother b (c :: rest) hb)

namespace Reordered

variable {t : SpecifierTable}

theorem matchLengths_eq (ht : t.Reordered) (text : Text) :
    t.matchLengths text = standard.matchLengths text := by
  have hsome : t.specifiers ≠ [] := by
    intro hnone
    have hperm := ht.perm
    rw [hnone, List.nil_perm] at hperm
    exact absurd hperm (by decide)
  have hperm : (t.matchLengths text).Perm (standard.matchLengths text) := by
    rw [matchLengths_eq_filterMap hsome, matchLengths_eq_filterMap (by decide)]
    exact ht.perm.filterMap _
  rcases standard_matchLengths_cases text with hone | ⟨rest, rfl⟩
  · match hlengths : standard.matchLengths text with
    | [] =>
      rw [hlengths] at hperm
      exact hperm.eq_nil
    | [k] =>
      rw [hlengths] at hperm
      exact List.perm_singleton.1 hperm
    | k :: k' :: rest =>
      rw [hlengths] at hone
      exact absurd hone (by simp)
  -- the specifier of names comes first in both, so its length does
  · have hboth : standard.matchLengths ('?' :: '#' :: rest) = [2, 1] := by rfl
    have hsub : [2, 1].Sublist (t.matchLengths ('?' :: '#' :: rest)) := by
      rw [matchLengths_eq_filterMap hsome]
      exact ht.names_first.filterMap fun s => s.matchLength? ('?' :: '#' :: rest)
    rw [hboth] at hperm ⊢
    exact (hsub.eq_of_length hperm.length_eq.symm).symm

theorem matcher_eq (ht : t.Reordered) : t.matcher = standard.matcher := by
  funext text
  unfold matcher
  rw [ht.matchLengths_eq]

theorem get?_eq (ht : t.Reordered) (token : Text) : t.get? token = standard.get? token := by
  have hperm : t.specifiers.reverse.Perm standard.specifiers.reverse :=
    (List.reverse_perm _).trans (ht.perm.trans (List.reverse_perm _).symm)
  exact find?_token_perm hperm (by decide) _

theorem scan_eq (ht : t.Reordered) (template : Text) :
    t.scan template = standard.scan template := by
  unfold scan scanBy placeholderAt kind?
  simp only [ht.matcher_eq, ht.get?_eq]

theorem unknown_eq (ht : t.Reordered) (template : Text) :
    t.unknown template = standard.unknown template := by
  unfold unknown isRegistered
  simp only [ht.get?_eq]

end Reordered

/-- A placeholder refuses a value for no other reason than the value. -/
theorem exists_refusal_of_formatBy {e : Escaper} {value : Placeholder → Value} {template : Text}
    {p : Placeholder} (hp : p ∈ standard.scan template) {error : CompileError}
    (h : (formatBy e value standard.specifiers p).result = .error error) :
    ∃ ρ, Refusal.OfValue p.token ρ ∧ error = .refusal ρ := by
  obtain ⟨s, hs, htoken, -, hfind⟩ := exists_standard_of_mem_scan hp
  obtain ⟨k, hk⟩ := Option.isSome_iff_exists.1 (standard_kind_isSome s hs)
  have hdecides := Specifier.decides_format hk e (value p)
  rw [formatBy, hfind] at h
  dsimp only at h
  cases haccepts : k.accepts (value p) with
  | true =>
    obtain ⟨text, htext⟩ := hdecides.ok haccepts
    rw [htext] at h
    exact absurd h (by simp)
  | false =>
    obtain ⟨ρ, hρ, hrefused⟩ := hdecides.refused haccepts
    rw [hrefused] at h
    exact ⟨ρ, htoken ▸ hρ, (Except.error.inj h).symm⟩

end SpecifierTable

namespace Compiler

open SpecifierTable (standard)

variable {t : SpecifierTable} {strict : Bool} {template : Text} {args : List Value}

/-- The same text in either order of the passes, or a value that is refused. -/
theorem substituted_reordered (ht : t.Reordered) (e : Escaper)
    (hcount : ¬ Miscounted strict (standard.scan template).length args.length) :
    let x := (⟨e, t, strict⟩ : Compiler).substituted template args
    let y := (⟨e, standard, strict⟩ : Compiler).substituted template args
    (∃ text, x.result = .ok text ∧ y.result = .ok text ∧ x.raw.Perm y.raw) ∨
    ((∃ p ∈ standard.scan template, ∃ ρ, Refusal.OfValue p.token ρ ∧
        x.result = .error (.refusal ρ)) ∧
      ∃ p ∈ standard.scan template, ∃ ρ, Refusal.OfValue p.token ρ ∧
        y.result = .error (.refusal ρ)) := by
  intro x y
  have hscan : t.scan template = standard.scan template := ht.scan_eq template
  have hx : x = passes e (argumentOf args) t.specifiers
      (Segment.split template (standard.scan template)) >>= joinFilled := by
    rw [← hscan]
    exact substituted_of_counted (hscan ▸ hcount)
  have hy : y = passes e (argumentOf args) standard.specifiers
      (Segment.split template (standard.scan template)) >>= joinFilled :=
    substituted_of_counted hcount
  have hholes : Segment.holes (Segment.split template (standard.scan template)) =
      standard.scan template := Segment.holes_split _ _
  have htok : ∀ p ∈ standard.scan template, ∃ s ∈ standard.specifiers, s.token = p.token := by
    intro p hp
    obtain ⟨s, hs, htoken, -⟩ := SpecifierTable.exists_standard_of_mem_scan hp
    exact ⟨s, hs, htoken⟩
  have hpos := SpecifierTable.pairwise_position_scan standard template
  rw [← hholes] at htok hpos
  have hpasses :=
    passes_perm e (argumentOf args) ht.perm SpecifierTable.standard_tokens_pairwise htok hpos
  rw [hholes] at hpasses
  rcases hpasses with ⟨w, hokx, hoky, hraw⟩ |
    ⟨⟨p, hp, error, hpe, herrorx⟩, q, hq, error', hqe, herrory⟩
  · left
    have hjoin : joinFilled ((Segment.split template (standard.scan template)).map
        (Segment.fillWith w)) =
          pure (template.edited (Placeholder.edits w (standard.scan template))) := by
      unfold joinFilled
      rw [Placeholder.join_split
        (Placeholder.separate_scan SpecifierTable.standard_single template)]
    rw [Escaping.bind_of_ok hokx, hjoin] at hx
    rw [Escaping.bind_of_ok hoky, hjoin] at hy
    refine ⟨_, congrArg Escaping.result hx, congrArg Escaping.result hy, ?_⟩
    rw [hx, hy]
    simpa using hraw
  · right
    obtain ⟨ρ, hρ, rfl⟩ := SpecifierTable.exists_refusal_of_formatBy hp hpe
    obtain ⟨ρ', hρ', rfl⟩ := SpecifierTable.exists_refusal_of_formatBy hq hqe
    rw [Escaping.bind_of_error herrorx] at hx
    rw [Escaping.bind_of_error herrory] at hy
    exact ⟨⟨p, hp, ρ, hρ, congrArg Escaping.result hx⟩,
      q, hq, ρ', hρ', congrArg Escaping.result hy⟩

/-- With the specifiers in another order a call has the same outcome, but that its strings are
escaped in another order, and that of several values that are refused another one may come first. -/
theorem compile_reordered (ht : t.Reordered) (e : Escaper) (strict : Bool) (template : Text)
    (args : List Value) :
    let x := (⟨e, t, strict⟩ : Compiler).compile template args
    let y := (⟨e, standard, strict⟩ : Compiler).compile template args
    (∃ r, x.result = .ok r ∧ y.result = .ok r ∧ x.escaped.Perm y.escaped) ∨
    (∃ tokens, x.result = .error (.refusal (.unknownSpecifiers tokens template)) ∧
      y.result = .error (.refusal (.unknownSpecifiers tokens template))) ∨
    (∃ n m, x.result = .error (.refusal (.argumentCount n m template)) ∧
      y.result = .error (.refusal (.argumentCount n m template))) ∨
    ((∃ p ∈ standard.scan template, ∃ ρ, Refusal.OfValue p.token ρ ∧
        x.result = .error (.refusal ρ)) ∧
      ∃ p ∈ standard.scan template, ∃ ρ, Refusal.OfValue p.token ρ ∧
        y.result = .error (.refusal ρ)) := by
  intro x y
  let c : Compiler := ⟨e, t, strict⟩
  let d : Compiler := ⟨e, standard, strict⟩
  have hscan : c.table.scan template = standard.scan template := ht.scan_eq template
  have hunknown : c.table.unknown template = standard.unknown template := ht.unknown_eq template
  by_cases hknown : standard.unknown template = []
  case neg =>
    have hx := validate_eq_error (c := c) (hunknown ▸ hknown)
    have hy := validate_eq_error (c := d) hknown
    rw [hunknown] at hx
    right; left
    exact ⟨_, congrArg Call.result (compile_of_invalid hx args),
      congrArg Call.result (compile_of_invalid hy args)⟩
  have hvalid : c.validate template = .ok () := validate_eq_ok_iff.2 (hunknown.trans hknown)
  have hvalid' : d.validate template = .ok () := validate_eq_ok_iff.2 hknown
  obtain ⟨hescaped, hresult⟩ := compile_of_valid hvalid args
  obtain ⟨hescaped', hresult'⟩ := compile_of_valid hvalid' args
  by_cases hcount : Miscounted strict (standard.scan template).length args.length
  · have hx : c.substituted template args = .fail (.refusal (.argumentCount
        (c.table.scan template).length args.length template)) :=
      substituted_of_miscounted (hscan ▸ hcount)
    have hy := substituted_of_miscounted (c := d) hcount
    rw [hscan] at hx
    rw [hx] at hresult
    rw [hy] at hresult'
    right; right; left
    exact ⟨_, _, hresult, hresult'⟩
  rcases substituted_reordered ht e hcount with ⟨text, hx, hy, hraw⟩ |
    ⟨⟨p, hp, ρ, hρ, hx⟩, q, hq, ρ', hρ', hy⟩
  · left
    have hsame : c.resolved template text = d.resolved template text := by
      unfold resolved
      rw [hscan]
    rw [hx] at hresult
    rw [hy] at hresult'
    rw [hescaped, hescaped']
    exact ⟨c.resolved template text, hresult, hsame ▸ hresult', hraw⟩
  · right; right; right
    rw [hx] at hresult
    rw [hy] at hresult'
    exact ⟨⟨p, hp, ρ, hρ, hresult⟩, q, hq, ρ', hρ', hresult'⟩

/-- The passes the other way round, as far as that may be: strings are escaped before names of
columns in a mapping. -/
theorem compile_reordered_reverse :
    let t : SpecifierTable := ⟨[.identifier, .any, .array, .float, .integer]⟩
    let args := [.map "dict" [(.text "b".toList, .int 1)], .text "it's".toList]
    t.Reordered ∧
    (∃ r, ((⟨.mysql, t, true⟩ : Compiler).compile "?a ?".toList args).result = .ok r ∧
      ((⟨.mysql, standard, true⟩ : Compiler).compile "?a ?".toList args).result = .ok r) ∧
    ((⟨.mysql, t, true⟩ : Compiler).compile "?a ?".toList args).escaped =
      ["it's".toList, "b".toList] ∧
    ((⟨.mysql, standard, true⟩ : Compiler).compile "?a ?".toList args).escaped =
      ["b".toList, "it's".toList] := by
  intro t args
  have ht : t.Reordered := by decide
  refine ⟨ht, ?_, by rfl, by rfl⟩
  obtain ⟨r, hok⟩ : ∃ r,
      ((⟨.mysql, standard, true⟩ : Compiler).compile "?a ?".toList args).result = .ok r := ⟨_, rfl⟩
  rcases compile_reordered ht .mysql true "?a ?".toList args with
    ⟨r, hx, hy, -⟩ | ⟨_, -, hy⟩ | ⟨_, _, -, hy⟩ | ⟨-, _, _, _, _, hy⟩
  · exact ⟨r, hx, hy⟩
  all_goals exact absurd (hok.symm.trans hy) (by simp)

end Compiler
end QueryTemplate
