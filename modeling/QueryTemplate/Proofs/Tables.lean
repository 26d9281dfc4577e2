import QueryTemplate.Proofs.Outcomes

/-! Tables of any specifiers. What they recognise spells one of their tokens, so a template that
spells none has no placeholders; but a table without specifiers finds one at every offset. -/
namespace QueryTemplate

namespace SpecifierTable

/-- Tokens are not empty, and that of a specifier that recognises a bare mark is the mark. -/
structure WellFormed (t : SpecifierTable) : Prop where
  tokens : ∀ s ∈ t.specifiers, s.token ≠ []
  marks : ∀ s ∈ t.specifiers, s.recognition = .bareMark → s.token = ['?']

instance (t : SpecifierTable) : Decidable t.WellFormed :=
  decidable_of_iff ((∀ s ∈ t.specifiers, s.token ≠ []) ∧
      ∀ s ∈ t.specifiers, s.recognition = .bareMark → s.token = ['?'])
    ⟨fun h => ⟨h.1, h.2⟩, fun h => ⟨h.tokens, h.marks⟩⟩

end SpecifierTable

/-- What a specifier recognises spells its token. -/
theorem Specifier.beginsWith_of_matchLength? {s : Specifier} {text : Text} {k : Nat}
    (hmark : s.recognition = .bareMark → s.token = ['?']) (h : s.matchLength? text = some k) :
    k = s.token.length ∧ Text.beginsWith s.token text = true := by
  unfold Specifier.matchLength? at h
  split at h
  next =>
    split_ifs at h with hb
    exact ⟨(Option.some.inj h).symm, hb⟩
  next hbare =>
    rw [hmark hbare]
    split at h
    next rest =>
      split_ifs at h
      exact ⟨(Option.some.inj h).symm, by simp [Text.beginsWith, Text.sameLetter]⟩
    next => exact absurd h (by simp)

namespace SpecifierTable

variable {t : SpecifierTable} {template text : Text} {k : Nat}

theorem WellFormed.exists_beginsWith (ht : t.WellFormed) (hne : t.specifiers ≠ [])
    (h : k ∈ t.matcher text) :
    ∃ s ∈ t.specifiers, k = s.token.length ∧ Text.beginsWith s.token text = true := by
  obtain ⟨s, hs, hmatch⟩ := exists_of_mem_matcher hne h
  exact ⟨s, hs, Specifier.beginsWith_of_matchLength? (ht.marks s hs) hmatch⟩

theorem WellFormed.scan_eq_nil (ht : t.WellFormed) (hne : t.specifiers ≠ [])
    (hnone : ∀ s ∈ t.specifiers, ¬ Text.SpelledIn s.token template) : t.scan template = [] := by
  have hspans : t.matcher.spans template = [] := by
    refine List.eq_nil_iff_forall_not_mem.2 fun span hspan => ?_
    obtain ⟨-, k, hk, -⟩ := Matcher.mem_spans hspan
    obtain ⟨s, hs, -, hbegins⟩ := ht.exists_beginsWith hne hk
    have hrest : template.drop span.start ∈ template.tails :=
      (List.mem_tails _ _).2 (List.drop_suffix _ _)
    exact hnone s hs (Text.spelledIn_iff.2 ⟨_, hrest, hbegins⟩)
  rw [scan, scanBy, hspans, List.mapIdx_nil]

end SpecifierTable

/-- A matcher that finds emptiness everywhere finds it before every character and at the end. -/
theorem Matcher.spansFrom_of_empty {m : Matcher} (hm : ∀ text, m text = [0]) (i : Nat)
    (text : Text) :
    m.spansFrom i 0 text = (List.range' i (text.length + 1)).map fun j => ⟨j, j⟩ := by
  induction text generalizing i with
  | nil =>
    rw [spansFrom, hm]
    rfl
  | cons c rest ih =>
    rw [spansFrom, hm, reach]
    exact congrArg _ (ih (i + 1))

theorem SpecifierTable.scan_empty (template : Text) :
    (⟨[]⟩ : SpecifierTable).scan template =
      (List.range (template.length + 1)).map fun i => ⟨[], none, i, i, i⟩ := by
  have hspans : (⟨[]⟩ : SpecifierTable).matcher.spans template =
      (List.range' 0 (template.length + 1)).map fun j => ⟨j, j⟩ :=
    Matcher.spansFrom_of_empty (fun _ => rfl) 0 template
  rw [scan, scanBy, hspans, List.range_eq_range']
  refine List.ext_getElem? fun i => ?_
  rw [List.getElem?_mapIdx, List.getElem?_map, List.getElem?_map]
  cases hi : (List.range' 0 (template.length + 1))[i]? with
  | none => rfl
  | some j =>
    obtain ⟨hlt, hj⟩ := List.getElem?_eq_some_iff.1 hi
    rw [List.getElem_range'] at hj
    obtain rfl : i = j := by omega
    simp only [Option.map_some, placeholderAt, Span.of, Nat.sub_self, List.take_zero]
    rfl

/-- Where no placeholders are there is nothing for the passes to do. -/
theorem passes_of_no_holes {e : Escaper} {value : Placeholder → Value} {segments : List Segment}
    (h : Segment.holes segments = []) (specs : List Specifier) :
    passes e value specs segments = pure segments := by
  induction specs with
  | nil => rfl
  | cons s rest ih =>
    have hnone : (Segment.holes segments).filter (·.token = s.token) = [] := by rw [h]; rfl
    rw [passes, each_fillOne_of_none hnone, pure_bind, ih]

theorem Text.edited_nil (text : Text) : text.edited [] = text := by
  rw [edited, editedFrom_plain (Nat.zero_le _) (Nat.le_refl _) fun _ _ _ _ he =>
    absurd he List.not_mem_nil, List.drop_zero, Nat.sub_zero, List.take_length]

namespace Compiler

variable {c : Compiler} {template : Text}

theorem substituted_of_no_placeholders (h : c.table.scan template = []) :
    c.substituted template [] = pure template := by
  have hcount : ¬ Miscounted c.strict (c.table.scan template).length ([] : List Value).length := by
    rw [h]
    rintro (hfew | ⟨-, hmany⟩)
    · exact Nat.lt_irrefl _ hfew
    · exact Nat.lt_irrefl _ hmany
  have hholes : Segment.holes (Segment.split template []) = [] := Segment.holes_split template []
  have hjoin : Segment.join (Segment.split template []) = .ok template := by
    have hnone : Placeholder.Separate template [] :=
      ⟨fun p hp => absurd hp List.not_mem_nil, List.Pairwise.nil⟩
    have hfilled := Placeholder.join_split (w := fun _ => []) hnone
    rwa [Segment.map_fillWith_of_no_holes hholes, Placeholder.edits, List.map_nil,
      Text.edited_nil] at hfilled
  rw [substituted_of_counted hcount, h, passes_of_no_holes hholes, pure_bind, joinFilled, hjoin]

/-- A template that spells no token of a table compiles without arguments, to itself with its blocks
resolved. Only the table without specifiers wants an argument for each of its offsets. -/
theorem compile_tokenless (e : Escaper) (strict : Bool) {t : SpecifierTable} (ht : t.WellFormed)
    {template : Text} (hvalid : (⟨e, t, strict⟩ : Compiler).validate template = .ok ())
    (hnone : ∀ s ∈ t.specifiers, ¬ Text.SpelledIn s.token template) :
    let call := (⟨e, t, strict⟩ : Compiler).compileWith template (.list [])
    (t.specifiers ≠ [] → t.scan template = [] ∧ call.escaped = [] ∧
      ∃ r, call.result = .ok r ∧ r.query = Block.resolve omissionToken template ∧
        r.placeholders = [] ∧ r.blocks = Block.find omissionToken template) ∧
    (t.specifiers = [] →
      t.scan template = (List.range (template.length + 1)).map (fun i => ⟨[], none, i, i, i⟩) ∧
      call.result = .error (.refusal (.argumentCount (template.length + 1) 0 template))) := by
  intro call
  obtain ⟨hescaped, hresult⟩ := compile_of_valid hvalid []
  constructor
  · intro hne
    have hscan : t.scan template = [] := ht.scan_eq_nil hne hnone
    have htext : (⟨e, t, strict⟩ : Compiler).substituted template [] = pure template :=
      substituted_of_no_placeholders hscan
    rw [htext] at hescaped hresult
    exact ⟨hscan, hescaped, _, hresult, rfl, hscan, rfl⟩
  · intro hempty
    have hscan : t.scan template =
        (List.range (template.length + 1)).map (fun i => ⟨[], none, i, i, i⟩) := by
      obtain rfl : t = ⟨[]⟩ := congrArg SpecifierTable.mk hempty
      exact SpecifierTable.scan_empty template
    have hlength : (t.scan template).length = template.length + 1 := by
      rw [hscan, List.length_map, List.length_range]
    have hfail : (⟨e, t, strict⟩ : Compiler).substituted template [] =
        .fail (.refusal (.argumentCount (t.scan template).length 0 template)) :=
      substituted_of_miscounted (Or.inl (by rw [hlength]; exact Nat.succ_pos _))
    rw [hfail, hlength] at hresult
    exact ⟨hscan, hresult⟩

theorem compile_tokenless_block :
    let t : SpecifierTable := ⟨[⟨['X'], some .integer, .token, "custom"⟩, .any]⟩
    let template := "a \x7bNULL\x7d \x7bb\x7d".toList
    t.WellFormed ∧ (⟨.mysql, t, true⟩ : Compiler).validate template = .ok () ∧
      (∀ s ∈ t.specifiers, ¬ Text.SpelledIn s.token template) ∧
      ∃ r, ((⟨.mysql, t, true⟩ : Compiler).compileWith template (.list [])).result = .ok r ∧
        r.query = "a  b".toList := by
  intro t template
  have ht : t.WellFormed := by decide
  have hvalid : (⟨.mysql, t, true⟩ : Compiler).validate template = .ok () := by rfl
  have hnone : ∀ s ∈ t.specifiers, ¬ Text.SpelledIn s.token template := by decide
  obtain ⟨-, -, r, hr, hquery, -⟩ :=
    (compile_tokenless .mysql true ht hvalid hnone).1 (List.cons_ne_nil _ _)
  exact ⟨ht, hvalid, hnone, r, hr, hquery.trans (by decide)⟩

/-- Without specifiers no token occurs in any template, and still there are placeholders. -/
theorem compile_refused_without_specifiers :
    let c : Compiler := ⟨.mysql, ⟨[]⟩, true⟩
    c.table.WellFormed ∧ c.validate ['a'] = .ok () ∧
      (∀ s ∈ c.table.specifiers, ¬ Text.SpelledIn s.token ['a']) ∧
      c.table.scan ['a'] = [⟨[], none, 0, 0, 0⟩, ⟨[], none, 1, 1, 1⟩] ∧
      (c.compileWith ['a'] (.list [])).result =
        .error (.refusal (.argumentCount 2 0 ['a'])) := by
  refine ⟨by decide, rfl, by decide, rfl, rfl⟩

end Compiler
end QueryTemplate
