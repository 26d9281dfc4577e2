import QueryTemplate.Proofs.Candidates
import QueryTemplate.Proofs.Substitution
import QueryTemplate.Query.Compile

/-! Which question marks of a template open a placeholder, and which templates have no others. -/
namespace QueryTemplate

theorem Text.isWord_of_isBlank {c : Char} (h : isBlank c = true) : isWord c = false := by
  have hblank : ∀ n ∈ blankNumbers, isWord (Char.ofNat n) = false := by decide +kernel
  have hc := hblank c.toNat (mem_blankNumbers h)
  rwa [Char.ofNat_toNat] at hc

namespace SpecifierTable

variable {template text rest : Text} {c : Char} {k : Nat}

/-- The kind of placeholder that a question mark and a letter stand for. -/
def letterKind? : Char → Option Kind
  | 'd' | 'D' => some .integer
  | 'f' | 'F' => some .float
  | 'a' | 'A' => some .array
  | '#' => some .identifier
  | _ => none

/-- Does a question mark with this character after it, or none, open a placeholder? -/
def Opens : Option Char → Prop
  | none => True
  | some c => c ∈ tokenLetters ∨ Text.isWord c = false

theorem Allows.opens {next : Option Char} (h : Allows next) : Opens next := by
  cases next with
  | none => trivial
  | some c => exact h.imp_right Text.isWord_of_isBlank

private theorem beginsWith_mark (a : Char) (rest : Text) (c : Char) :
    Text.beginsWith ['?', a] ('?' :: c :: rest) = Text.sameLetter a c := by
  have hmark : Text.sameLetter '?' '?' = true := by decide
  rw [Text.beginsWith, hmark, Text.beginsWith, Text.beginsWith, Bool.and_true, Bool.true_and]

theorem standard_matcher_of_letter (hc : c ∈ tokenLetters) (rest : Text) :
    standard.matcher ('?' :: c :: rest) = [2] := by
  simp only [tokenLetters, List.mem_cons, List.not_mem_nil, or_false] at hc
  rcases hc with rfl | rfl | rfl | rfl | rfl | rfl | rfl <;> rfl

theorem standard_matchLengths_of_other (hc : c ∉ tokenLetters) (rest : Text) :
    standard.matchLengths ('?' :: c :: rest) = if Text.isWord c then [] else [1] := by
  have hletter : ∀ a ∈ ['d', 'f', 'a', '#'], Text.sameLetter a c = false := by
    intro a ha
    rw [← Bool.not_eq_true, Text.sameLetter_iff (List.mem_cons_of_mem _ ha)]
    have hmem : ∀ a ∈ ['d', 'f', 'a', '#'], a ∈ tokenLetters ∧ a.toUpper ∈ tokenLetters :=
      List.forall_iff_forall_mem.1 (by decide)
    rintro (rfl | rfl)
    · exact hc (hmem _ ha).1
    · exact hc (hmem _ ha).2
  simp only [List.mem_cons, List.not_mem_nil, or_false, forall_eq_or_imp, forall_eq] at hletter
  obtain ⟨hd, hf, ha, hhash⟩ := hletter
  simp only [matchLengths, standard, Specifier.integer, Specifier.float, Specifier.array,
    Specifier.identifier, Specifier.any, Specifier.matchLength?, List.isEmpty_cons,
    List.filterMap_cons, List.filterMap_nil, beginsWith_mark, hd, hf, ha, hhash,
    List.head?_cons, Option.any_some]
  by_cases hw : Text.isWord c = true <;> simp [hw]

theorem standard_matcher_of_other (hc : c ∉ tokenLetters) (rest : Text) :
    standard.matcher ('?' :: c :: rest) = if Text.isWord c then [] else [1] := by
  have hlengths := standard_matchLengths_of_other hc rest
  by_cases hw : Text.isWord c = true
  · rw [if_pos hw] at hlengths ⊢
    rw [matcher, hlengths]
  · rw [if_neg hw] at hlengths ⊢
    rw [matcher, hlengths]
    rfl

theorem head_of_mem_standard {b : Char} (h : k ∈ standard.matcher (b :: rest)) :
    b = '?' := by
  have hpos : 0 < k := by
    rcases standard_single (b :: rest) with hnone | ⟨k', hone, hpos, -⟩
    · rw [hnone] at h
      exact absurd h List.not_mem_nil
    · rw [hone, List.mem_singleton] at h
      rwa [h]
  obtain ⟨k, rfl⟩ := Nat.exists_eq_succ_of_ne_zero (Nat.ne_of_gt hpos)
  rcases take_of_mem_standard h with htake | ⟨c, -, htake⟩ <;>
    exact (List.cons.inj htake).1

theorem standard_matcher_of_ne {b : Char} (hb : b ≠ '?') (rest : Text) :
    standard.matcher (b :: rest) = [] :=
  List.eq_nil_iff_forall_not_mem.2 fun _ hk => hb (head_of_mem_standard hk)

/-- A match is a question mark with a letter of a token, or else one with no word character after
it. -/
theorem mem_standard_matcher_iff : k ∈ standard.matcher text ↔
    text[0]? = some '?' ∧ ((k = 2 ∧ ∃ c ∈ tokenLetters, text[1]? = some c) ∨
      (k = 1 ∧ ∀ c, text[1]? = some c → c ∉ tokenLetters ∧ Text.isWord c = false)) := by
  rcases text with _ | ⟨b, _ | ⟨c, rest⟩⟩
  · exact iff_of_false (by rw [standard_single.nil]; exact List.not_mem_nil) (by simp)
  · by_cases hb : b = '?'
    · have hmatch : standard.matcher ['?'] = [1] := by decide
      rw [hb, hmatch]
      simp
    · refine iff_of_false (fun h => hb ?_) (by simp [hb])
      exact head_of_mem_standard h
  · by_cases hb : b = '?'
    · subst hb
      by_cases hc : c ∈ tokenLetters
      · rw [standard_matcher_of_letter hc]
        simp [hc]
      · rw [standard_matcher_of_other hc]
        by_cases hw : Text.isWord c = true <;> simp [hc, hw]
    · exact iff_of_false (fun h => hb (head_of_mem_standard h)) (by simp [hb])

theorem mem_standard_matcher_drop_iff (template : Text) (j : Nat) :
    k ∈ standard.matcher (template.drop j) ↔
      template[j]? = some '?' ∧ ((k = 2 ∧ ∃ c ∈ tokenLetters, template[j + 1]? = some c) ∨
        (k = 1 ∧ ∀ c, template[j + 1]? = some c → c ∉ tokenLetters ∧ Text.isWord c = false)) := by
  rw [mem_standard_matcher_iff, List.getElem?_drop, List.getElem?_drop, Nat.add_zero]

theorem opens_iff (next : Option Char) :
    Opens next ↔ (∃ c ∈ tokenLetters, next = some c) ∨
      ∀ c, next = some c → c ∉ tokenLetters ∧ Text.isWord c = false := by
  cases next with
  | none => exact iff_of_true trivial (Or.inr fun c h => absurd h (by simp))
  | some c =>
    by_cases hc : c ∈ tokenLetters <;> simp [Opens, hc]

/-- No match reaches into a question mark that stands after its first character. -/
theorem add_le_of_mem_standard {j j' : Nat} (hj : template[j]? = some '?') (hlt : j' < j)
    (hk : k ∈ standard.matcher (template.drop j')) : j' + k ≤ j := by
  obtain ⟨-, ⟨rfl, c, hc, hnext⟩ | ⟨rfl, -⟩⟩ := (mem_standard_matcher_drop_iff template j').1 hk
  · by_contra hreach
    obtain rfl : j = j' + 1 := by omega
    obtain rfl : '?' = c := Option.some.inj (hj.symm.trans hnext)
    exact absurd hc (by decide)
  · exact hlt

/-- The matches of the standard table in a template, by the characters where they begin. -/
theorem mem_standard_spans_iff {s : Span} : s ∈ standard.matcher.spans template ↔
    template[s.start]? = some '?' ∧
      ((s.stop = s.start + 2 ∧ ∃ c ∈ tokenLetters, template[s.start + 1]? = some c) ∨
        (s.stop = s.start + 1 ∧
          ∀ c, template[s.start + 1]? = some c → c ∉ tokenLetters ∧ Text.isWord c = false)) := by
  constructor
  · intro hs
    obtain ⟨-, k, hk, hstop⟩ := Matcher.mem_spans hs
    rw [mem_standard_matcher_drop_iff] at hk
    obtain ⟨hmark, ⟨rfl, hc⟩ | ⟨rfl, hc⟩⟩ := hk
    · exact ⟨hmark, Or.inl ⟨hstop, hc⟩⟩
    · exact ⟨hmark, Or.inr ⟨hstop, hc⟩⟩
  · rintro ⟨hmark, hnext⟩
    have hlt := (List.getElem?_eq_some_iff.1 hmark).1
    have hin : ∀ k, k ∈ standard.matcher (template.drop s.start) → s.stop = s.start + k →
        s ∈ standard.matcher.spans template := by
      intro k hk hstop
      have hmem := Matcher.mem_spans_of hk (Nat.le_of_lt hlt) fun j' hj' k' hk' =>
        add_le_of_mem_standard hmark hj' hk'
      rwa [← hstop] at hmem
    rcases hnext with ⟨hstop, hc⟩ | ⟨hstop, hc⟩
    · exact hin 2 ((mem_standard_matcher_drop_iff _ _).2 ⟨hmark, Or.inl ⟨rfl, hc⟩⟩) hstop
    · exact hin 1 ((mem_standard_matcher_drop_iff _ _).2 ⟨hmark, Or.inr ⟨rfl, hc⟩⟩) hstop

/-- What a placeholder is depends on the character after its question mark alone. -/
theorem standard_scan_shape {p : Placeholder} (hp : p ∈ standard.scan template) :
    template[p.span.start]? = some '?' ∧
      ((∃ c ∈ tokenLetters, template[p.span.start + 1]? = some c ∧
          p.span.stop = p.span.start + 2 ∧ p.token = ['?', c.toLower] ∧ p.kind = letterKind? c) ∨
        ((∀ c, template[p.span.start + 1]? = some c → c ∉ tokenLetters ∧ Text.isWord c = false) ∧
          p.span.stop = p.span.start + 1 ∧ p.token = ['?'] ∧ p.kind = some .any)) := by
  obtain ⟨hspan, -, -, htoken, hkind⟩ := mem_scan hp
  obtain ⟨hmark, hnext⟩ := mem_standard_spans_iff.1 hspan
  refine ⟨hmark, ?_⟩
  rcases hnext with ⟨hstop, c, hc, hat⟩ | ⟨hstop, hother⟩
  · left
    have hof : p.span.of template = ['?', c] := by
      rw [Span.of_eq_cons_cons hmark hat (Nat.le_of_eq hstop.symm), hstop, Nat.sub_self,
        List.take_zero]
    have hletter : ∀ c ∈ tokenLetters, Text.lower ['?', c] = ['?', c.toLower] ∧
        standard.kind? ['?', c.toLower] = letterKind? c :=
      List.forall_iff_forall_mem.1 (by decide)
    rw [hof, (hletter c hc).1] at htoken
    rw [htoken, (hletter c hc).2] at hkind
    exact ⟨c, hc, hat, hstop, htoken, hkind⟩
  · right
    have hof : p.span.of template = ['?'] := by
      obtain ⟨hlt, hchar⟩ := List.getElem?_eq_some_iff.1 hmark
      rw [Span.of, hstop, Nat.add_sub_cancel_left, List.drop_eq_getElem_cons hlt, hchar,
        List.take_succ_cons, List.take_zero]
    have hbare : Text.lower ['?'] = ['?'] ∧ standard.kind? ['?'] = some .any := by decide
    rw [hof, hbare.1] at htoken
    rw [htoken, hbare.2] at hkind
    exact ⟨hother, hstop, htoken, hkind⟩

theorem exists_mem_scan_iff (template : Text) (k : Nat) :
    (∃ p ∈ standard.scan template, p.span.start = k) ↔
      template[k]? = some '?' ∧ Opens template[k + 1]? := by
  constructor
  · rintro ⟨p, hp, rfl⟩
    obtain ⟨hmark, hnext⟩ := standard_scan_shape hp
    refine ⟨hmark, (opens_iff _).2 ?_⟩
    rcases hnext with ⟨c, hc, hat, -⟩ | ⟨hother, -⟩
    · exact Or.inl ⟨c, hc, hat⟩
    · exact Or.inr hother
  · rintro ⟨hmark, hopens⟩
    have hspan : ∃ s ∈ standard.matcher.spans template, s.start = k := by
      rcases (opens_iff _).1 hopens with hletter | hother
      · exact ⟨⟨k, k + 2⟩, mem_standard_spans_iff.2 ⟨hmark, Or.inl ⟨rfl, hletter⟩⟩, rfl⟩
      · exact ⟨⟨k, k + 1⟩, mem_standard_spans_iff.2 ⟨hmark, Or.inr ⟨rfl, hother⟩⟩, rfl⟩
    rw [← map_span_scan] at hspan
    obtain ⟨s, hs, hstart⟩ := hspan
    obtain ⟨p, hp, rfl⟩ := List.mem_map.1 hs
    exact ⟨p, hp, hstart⟩

end SpecifierTable

namespace Placeholder

variable {template : Text} {ps : List Placeholder}

theorem Separate.eq_of_covers (h : Separate template ps) {p q : Placeholder} (hp : p ∈ ps)
    (hq : q ∈ ps) {k : Nat} (hpk : p.span.covers k) (hqk : q.span.covers k) : p = q := by
  obtain ⟨i, hi, rfl⟩ := List.getElem_of_mem hp
  obtain ⟨j, hj, rfl⟩ := List.getElem_of_mem hq
  rw [Span.covers_iff] at hpk hqk
  have hord := List.pairwise_iff_getElem.1 h.2
  rcases Nat.lt_trichotomy i j with hij | rfl | hij
  · have := hord i j hi hj hij
    omega
  · rfl
  · have := hord j i hj hi hij
    omega

/-- The literal text of a template is what no placeholder covers. -/
theorem Separate.uncovered_of_mem_splitFrom (h : Separate template ps) {cursor : Nat}
    (hc : cursor ≤ template.length) (hcur : ∀ p ∈ ps, cursor ≤ p.span.start) {t : Text}
    (ht : .text t ∈ Segment.splitFrom template cursor ps) {c : Char} (hct : c ∈ t) :
    ∃ k, cursor ≤ k ∧ template[k]? = some c ∧ ∀ p ∈ ps, ¬ p.span.covers k := by
  have hslice : ∀ {i j : Nat}, i ≤ j → j ≤ template.length → c ∈ template.slice i j →
      ∃ k, i ≤ k ∧ k < j ∧ template[k]? = some c := by
    intro i j hij hj hmem
    rw [Text.slice_natCast _ _ _ hij hj] at hmem
    obtain ⟨n, hn⟩ := List.mem_iff_getElem?.1 hmem
    rw [List.getElem?_take] at hn
    split_ifs at hn with hlt
    rw [List.getElem?_drop] at hn
    exact ⟨i + n, by omega, by omega, hn⟩
  induction ps generalizing cursor with
  | nil =>
    rw [Segment.splitFrom] at ht
    split_ifs at ht
    · rw [List.mem_singleton, Segment.text.injEq] at ht
      obtain ⟨k, hk, -, hat⟩ := hslice hc (Nat.le_refl _) (ht ▸ hct)
      exact ⟨k, hk, hat, fun p hp => absurd hp List.not_mem_nil⟩
    · exact absurd ht List.not_mem_nil
  | cons p rest ih =>
    obtain ⟨hspans, hord⟩ := h
    obtain ⟨⟨hstart, hstop, hlt, hle⟩, hspans⟩ := List.forall_mem_cons.1 hspans
    obtain ⟨hafter, hord⟩ := List.pairwise_cons.1 hord
    have hp : cursor ≤ p.span.start := hcur p List.mem_cons_self
    rw [Segment.splitFrom, hstart, hstop, List.mem_append, List.mem_cons] at ht
    rcases ht with ht | ht | ht
    · split_ifs at ht
      · rw [List.mem_singleton, Segment.text.injEq] at ht
        obtain ⟨k, hk, hk', hat⟩ := hslice hp (by omega) (ht ▸ hct)
        refine ⟨k, hk, hat, List.forall_mem_cons.2 ⟨fun hcov => ?_, fun q hq hcov => ?_⟩⟩
        · rw [Span.covers_iff] at hcov
          omega
        · rw [Span.covers_iff] at hcov
          have := hafter q hq
          omega
      · exact absurd ht List.not_mem_nil
    · exact absurd ht (by simp)
    · obtain ⟨k, hk, hat, hfree⟩ := ih ⟨hspans, hord⟩ hle hafter ht
      refine ⟨k, by omega, hat, List.forall_mem_cons.2 ⟨fun hcov => ?_, hfree⟩⟩
      rw [Span.covers_iff] at hcov
      omega

theorem Separate.uncovered_of_mem_split (h : Separate template ps) {t : Text}
    (ht : .text t ∈ Segment.split template ps) {c : Char} (hct : c ∈ t) :
    ∃ k, template[k]? = some c ∧ ∀ p ∈ ps, ¬ p.span.covers k := by
  obtain ⟨k, -, hk⟩ :=
    h.uncovered_of_mem_splitFrom (Nat.zero_le _) (fun _ _ => Nat.zero_le _) ht hct
  exact ⟨k, hk⟩

end Placeholder

theorem Compiler.validate_eq_ok_iff {c : Compiler} {template : Text} :
    c.validate template = .ok () ↔ c.table.unknown template = [] := by
  unfold validate
  split
  next h => exact iff_of_true rfl h
  next h => exact iff_of_false (by simp) h

namespace SpecifierTable

/-- Every question mark that the validator lets pass is one that the scanner finds. -/
theorem validate_agrees_with_scan (e : Escaper) (strict : Bool) (template : Text) :
    let ps := standard.scan template
    let accepted := (⟨e, standard, strict⟩ : Compiler).validate template = .ok ()
    (∀ k : Nat, (∃ p ∈ ps, p.start = k) ↔ template[k]? = some '?' ∧ Opens template[k + 1]?) ∧
    (∀ p ∈ ps, ∃ k : Nat, p.start = k ∧
      ((∃ c ∈ tokenLetters, template[k + 1]? = some c ∧ p.stop = k + 2 ∧
          p.token = ['?', c.toLower] ∧ p.kind = letterKind? c) ∨
        ((∀ c ∈ tokenLetters, template[k + 1]? ≠ some c) ∧ p.stop = k + 1 ∧ p.token = ['?'] ∧
          p.kind = some .any))) ∧
    (∀ (i : Nat) (p : Placeholder), ps[i]? = some p → p.position = i) ∧
    ps.Pairwise (fun p q => p.start < q.start) ∧
    (accepted ↔ ∀ k : Nat, template[k]? = some '?' → Allows template[k + 1]?) ∧
    (accepted →
      (∀ k : Nat, template[k]? = some '?' → ∃! p, p ∈ ps ∧ p.span.covers k) ∧
      ∀ t : Text, Segment.text t ∈ Segment.split template ps → '?' ∉ t) := by
  intro ps accepted
  have hsep : Placeholder.Separate template ps := Placeholder.separate_scan standard_single template
  have hvalid : accepted ↔ ∀ k : Nat, template[k]? = some '?' → Allows template[k + 1]? := by
    rw [← standard_unknown_eq_nil_iff]
    exact Compiler.validate_eq_ok_iff
  have hcovered : accepted → ∀ k : Nat, template[k]? = some '?' →
      ∃ p ∈ ps, p.span.covers k := by
    intro hacc k hk
    obtain ⟨p, hp, rfl⟩ :=
      (exists_mem_scan_iff template k).2 ⟨hk, (hvalid.1 hacc k hk).opens⟩
    obtain ⟨-, -, hlt, -⟩ := hsep.1 p hp
    exact ⟨p, hp, (Span.covers_iff _ _).2 ⟨Nat.le_refl _, hlt⟩⟩
  refine ⟨fun k => ?_, fun p hp => ?_, fun i p => position_of_getElem?_scan, ?_, hvalid,
    fun hacc => ⟨fun k hk => ?_, fun t ht hmark => ?_⟩⟩
  · rw [← exists_mem_scan_iff]
    refine exists_congr fun p => and_congr_right fun hp => ?_
    rw [(hsep.1 p hp).1]
    exact Int.ofNat_inj
  · obtain ⟨hstart, hstop, -⟩ := hsep.1 p hp
    refine ⟨p.span.start, hstart, ?_⟩
    rw [hstop]
    rcases (standard_scan_shape hp).2 with ⟨c, hc, hat, htwo, hrest⟩ | ⟨hother, hone, hrest⟩
    · exact Or.inl ⟨c, hc, hat, by omega, hrest⟩
    · exact Or.inr ⟨fun c hc hat => (hother c hat).1 hc, by omega, hrest⟩
  · refine hsep.2.imp_of_mem fun {p q} hp hq hpq => ?_
    obtain ⟨hstart, -, hlt, -⟩ := hsep.1 p hp
    rw [hstart, (hsep.1 q hq).1]
    omega
  · obtain ⟨p, hp, hcov⟩ := hcovered hacc k hk
    exact ⟨p, ⟨hp, hcov⟩, fun q hq => hsep.eq_of_covers hq.1 hp hq.2 hcov⟩
  · obtain ⟨k, hk, hfree⟩ := hsep.uncovered_of_mem_split ht hmark
    obtain ⟨p, hp, hcov⟩ := hcovered hacc k hk
    exact hfree p hp hcov

end SpecifierTable
end QueryTemplate
