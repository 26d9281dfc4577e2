import Mathlib.Data.List.TakeWhile
import QueryTemplate.Proofs.Scanning
import QueryTemplate.Template.Candidate

/-! Which candidates a template has, and when all of them are tokens of the standard table. -/
namespace QueryTemplate

/-- The question marks up to an offset begin somewhere, and no other stands before them. -/
theorem Text.exists_run {text : Text} {k : Nat} (hk : text[k]? = some '?') :
    ∃ j ≤ k, (∀ i, j ≤ i → i ≤ k → text[i]? = some '?') ∧
      ∀ i, i + 1 = j → text[i]? ≠ some '?' := by
  induction k with
  | zero => exact ⟨0, Nat.le_refl 0, fun i _ hi => by rwa [Nat.le_zero.1 hi], fun i hi => by omega⟩
  | succ k ih =>
    by_cases hprev : text[k]? = some '?'
    · obtain ⟨j, hj, hrun, hfirst⟩ := ih hprev
      refine ⟨j, Nat.le_succ_of_le hj, fun i hji hi => ?_, hfirst⟩
      rcases Nat.lt_or_eq_of_le hi with hi | rfl
      · exact hrun i hji (Nat.le_of_lt_succ hi)
      · exact hk
    · refine ⟨k + 1, Nat.le_refl _, fun i hji hi => ?_, fun i hi => ?_⟩
      · rwa [Nat.le_antisymm hi hji]
      · rwa [Nat.succ_injective hi]

namespace Candidate

variable {text template : Text} {l m : Nat} {c : Char}

private theorem getElem?_of_lt_marks (h : m < (text.takeWhile (· == '?')).length) :
    text[m]? = some '?' := by
  have hmem := List.mem_takeWhile_imp (List.getElem_mem h)
  rw [beq_iff_eq] at hmem
  have hat : (text.takeWhile (· == '?'))[m]? = some '?' := by
    rw [List.getElem?_eq_getElem h, hmem]
  obtain ⟨after, happ⟩ := List.takeWhile_prefix (p := (· == '?')) (l := text)
  rw [← happ, List.getElem?_append_left h]
  exact hat

private theorem le_marks (h : ∀ i < m, text[i]? = some '?') :
    m ≤ (text.takeWhile (· == '?')).length := by
  induction m generalizing text with
  | zero => exact Nat.zero_le _
  | succ m ih =>
    cases text with
    | nil => exact absurd (h 0 (Nat.succ_pos m)) (by simp)
    | cons b rest =>
      have hb : b = '?' := Option.some.inj (h 0 (Nat.succ_pos m))
      have hrest : m ≤ (rest.takeWhile (· == '?')).length :=
        ih fun i hi => h (i + 1) (Nat.succ_lt_succ hi)
      rw [hb, List.takeWhile_cons_of_pos rfl]
      exact Nat.succ_le_succ hrest

/-- A candidate is made of question marks but for its last character, which is not blank. -/
theorem of_length?_eq_some (h : length? text = some l) :
    2 ≤ l ∧ (∀ i, i + 1 < l → text[i]? = some '?') ∧
      ∃ c, text[l - 1]? = some c ∧ Text.isBlank c = false := by
  obtain ⟨k, hfind, rfl⟩ := Option.map_eq_some_iff.1 h
  have hmem := List.mem_of_find?_eq_some hfind
  rw [List.mem_reverse, List.mem_range'_1] at hmem
  have hlast := List.find?_some hfind
  rw [Option.any_eq_true] at hlast
  obtain ⟨c, hc, hblank⟩ := hlast
  refine ⟨by omega, fun i hi => getElem?_of_lt_marks (by omega), c, hc, ?_⟩
  simpa using hblank

/-- A candidate takes as many question marks as it can. -/
theorem exists_length?_gt (hm : 1 ≤ m) (hmarks : ∀ i < m, text[i]? = some '?')
    (hc : text[m]? = some c) (hb : Text.isBlank c = false) :
    ∃ l, length? text = some l ∧ m < l := by
  have hle := le_marks hmarks
  have hmem : m ∈ (List.range' 1 (text.takeWhile (· == '?')).length).reverse := by
    rw [List.mem_reverse, List.mem_range'_1]
    omega
  have hgood : (text[m]?.any fun c => !Text.isBlank c) = true := by
    rw [hc, Option.any_some, hb]
    rfl
  have hsome : ((List.range' 1 (text.takeWhile (· == '?')).length).reverse.find? fun k =>
      text[k]?.any fun c => !Text.isBlank c).isSome = true :=
    List.find?_isSome.2 ⟨m, hmem, hgood⟩
  obtain ⟨k, hfind⟩ := Option.isSome_iff_exists.1 hsome
  refine ⟨k + 1, by rw [length?, hfind]; rfl, ?_⟩
  -- the numbers of marks are tried from the greatest down, so none before `k` is `m`
  obtain ⟨-, before, after, hsplit, hnone⟩ := List.find?_eq_some_iff_append.1 hfind
  have hdesc : (List.range' 1 (text.takeWhile (· == '?')).length).reverse.Pairwise (· > ·) :=
    List.pairwise_reverse.2 List.pairwise_lt_range'
  rw [hsplit] at hmem hdesc
  have hafter := (List.pairwise_cons.1 (List.pairwise_append.1 hdesc).2.1).1
  rcases List.mem_append.1 hmem with hbefore | hrest
  · have := hnone m hbefore
    rw [hgood] at this
    exact absurd this (by decide)
  · rcases List.mem_cons.1 hrest with rfl | hlater
    · exact Nat.lt_succ_self m
    · exact Nat.lt_succ_of_lt (hafter m hlater)

theorem mem_matcher : l ∈ matcher text ↔ length? text = some l := by
  rw [matcher, Option.mem_toList]

/-- A candidate does not reach into question marks that begin after it. -/
theorem add_le_of_first {j j' : Nat} (hfirst : ∀ i, i + 1 = j → template[i]? ≠ some '?')
    (hj' : j' < j) (hl : l ∈ matcher (template.drop j')) : j' + l ≤ j := by
  obtain ⟨-, hmarks, -⟩ := of_length?_eq_some (mem_matcher.1 hl)
  by_contra hreach
  -- it is made of question marks up to its last character, also right before `j`
  have hbefore := hmarks (j - 1 - j') (by omega)
  rw [List.getElem?_drop, (by omega : j' + (j - 1 - j') = j - 1)] at hbefore
  exact hfirst (j - 1) (by omega) hbefore

/-- A question mark with a character after it that is not blank is part of a candidate, and so is
that character. -/
theorem exists_span {k : Nat} (hk : template[k]? = some '?') (hc : template[k + 1]? = some c)
    (hb : Text.isBlank c = false) :
    ∃ s ∈ matcher.spans template, s.start ≤ k ∧ k + 2 ≤ s.stop := by
  obtain ⟨j, hj, hrun, hfirst⟩ := Text.exists_run hk
  have hmarks : ∀ i < k + 1 - j, (template.drop j)[i]? = some '?' := fun i hi => by
    rw [List.getElem?_drop]
    exact hrun (j + i) (by omega) (by omega)
  have hnext : (template.drop j)[k + 1 - j]? = some c := by
    rw [List.getElem?_drop, (by omega : j + (k + 1 - j) = k + 1)]
    exact hc
  obtain ⟨l, hl, hlt⟩ := exists_length?_gt (by omega) hmarks hnext hb
  have hkl := (List.getElem?_eq_some_iff.1 hk).1
  have hstop : k + 2 ≤ j + l := by omega
  refine ⟨⟨j, j + l⟩, Matcher.mem_spans_of (mem_matcher.2 hl) (by omega) ?_, hj, hstop⟩
  exact fun j' hj' l' hl' => add_le_of_first hfirst hj' hl'

theorem of_mem_spans {s : Span} (hs : s ∈ matcher.spans template) :
    s.start + 2 ≤ s.stop ∧ s.stop ≤ template.length ∧
      (∀ i, s.start ≤ i → i + 1 < s.stop → template[i]? = some '?') ∧
      ∃ c, template[s.stop - 1]? = some c ∧ Text.isBlank c = false := by
  obtain ⟨-, l, hl, hstop⟩ := Matcher.mem_spans hs
  obtain ⟨hlen, hmarks, c, hc, hblank⟩ := of_length?_eq_some (mem_matcher.1 hl)
  rw [List.getElem?_drop, (by omega : s.start + (l - 1) = s.stop - 1)] at hc
  have hlast := (List.getElem?_eq_some_iff.1 hc).1
  refine ⟨by omega, by omega, fun i hi hi' => ?_, c, hc, hblank⟩
  have hat := hmarks (i - s.start) (by omega)
  rwa [List.getElem?_drop, Nat.add_sub_cancel' hi] at hat

end Candidate

theorem Span.of_eq_cons_cons {template : Text} {s : Span} {a b : Char}
    (ha : template[s.start]? = some a) (hb : template[s.start + 1]? = some b)
    (hstop : s.start + 2 ≤ s.stop) :
    s.of template = a :: b :: (template.drop (s.start + 2)).take (s.stop - (s.start + 2)) := by
  obtain ⟨hlt, rfl⟩ := List.getElem?_eq_some_iff.1 ha
  obtain ⟨hlt', rfl⟩ := List.getElem?_eq_some_iff.1 hb
  rw [Span.of, (by omega : s.stop - s.start = s.stop - (s.start + 2) + 1 + 1),
    List.drop_eq_getElem_cons hlt, List.take_succ_cons, List.drop_eq_getElem_cons hlt',
    List.take_succ_cons]

namespace SpecifierTable

variable {c : Char}

/-- May this character, or none, follow a question mark in a template that is accepted? -/
def Allows : Option Char → Prop
  | none => True
  | some c => c ∈ tokenLetters ∨ Text.isBlank c = true

private theorem lowerChar_ne_nil (c : Char) : Text.lowerChar c ≠ [] := by
  unfold Text.lowerChar
  split_ifs <;> exact List.cons_ne_nil _ _

theorem length_le_length_lowerAfter (before text : Text) :
    text.length ≤ (Text.lowerAfter before text).length := by
  induction text generalizing before with
  | nil => exact Nat.zero_le _
  | cons c rest ih =>
    have hrest := ih (c :: before)
    have hpiece : 1 ≤ (if c = 'Σ' then [if Text.endsWord before rest then 'ς' else 'σ']
        else Text.lowerChar c).length := by
      split_ifs
      · exact Nat.le_refl 1
      · exact Nat.le_refl 1
      · exact List.length_pos_of_ne_nil (lowerChar_ne_nil c)
    rw [Text.lowerAfter, List.length_append, List.length_cons]
    omega

/-- Of all characters only the letters of the tokens have these in lower case. -/
private theorem mem_tokenLetters_of_lower {a : Char} (ha : a ∈ ['d', 'f', 'a', '#'])
    (h : Text.lower ['?', c] = ['?', a]) : c ∈ tokenLetters := by
  have hpiece : (if c = 'Σ' then [if Text.endsWord ['?'] [] then 'ς' else 'σ']
      else Text.lowerChar c) = [a] := by
    have hmark : Text.lowerChar '?' = ['?'] := by decide
    have hne : '?' ≠ 'Σ' := by decide
    rw [Text.lower, Text.lowerAfter, if_neg hne, hmark, List.singleton_append, List.cons.injEq,
      Text.lowerAfter, Text.lowerAfter, List.append_nil] at h
    exact h.2
  have hsmall : ∀ a ∈ ['d', 'f', 'a', '#'], a ≠ 'ς' ∧ a ≠ 'σ' ∧ Text.lowerLetter a = a ∧
      a ∈ tokenLetters ∧ a.toUpper ∈ tokenLetters := List.forall_iff_forall_mem.1 (by decide)
  obtain ⟨hfinal, hsigma, hself, hmem, hmem'⟩ := hsmall a ha
  have hlower : Text.lowerLetter c = a := by
    unfold Text.lowerChar at hpiece
    split_ifs at hpiece
    · exact absurd (List.cons.inj hpiece).1.symm hfinal
    · exact absurd (List.cons.inj hpiece).1.symm hsigma
    · exact absurd (List.cons.inj hpiece).2 (List.cons_ne_nil _ _)
    · exact (List.cons.inj hpiece).1
  have hsame : Text.sameLetter a c = true := by
    rw [Text.sameLetter, hself, hlower, beq_self_eq_true, Bool.true_or]
  rcases (Text.sameLetter_iff (List.mem_cons_of_mem _ ha) c).1 hsame with rfl | rfl
  · exact hmem
  · exact hmem'

/-- The registered tokens of more than one character are a question mark and a letter. -/
theorem standard_isRegistered_iff (c : Char) (rest : Text) :
    standard.isRegistered ('?' :: c :: rest) = true ↔ c ∈ tokenLetters ∧ rest = [] := by
  constructor
  · intro h
    obtain ⟨s, hs⟩ := Option.isSome_iff_exists.1 h
    have htoken : s.token = Text.lower ('?' :: c :: rest) := by
      have := List.find?_some hs
      rwa [beq_iff_eq] at this
    have hmem : s ∈ standard.specifiers := List.mem_reverse.1 (List.mem_of_find?_eq_some hs)
    have htokens : ∀ s ∈ standard.specifiers, s.token.length ≤ 2 ∧
        (s.token.length = 2 → s.token ∈ ['d', 'f', 'a', '#'].map (['?', ·])) := by decide
    obtain ⟨hlen, htwo⟩ := htokens s hmem
    have hle : rest.length + 2 ≤ s.token.length := by
      rw [htoken]
      exact length_le_length_lowerAfter [] ('?' :: c :: rest)
    obtain rfl : rest = [] := List.length_eq_zero_iff.1 (by omega)
    obtain ⟨a, ha, hs⟩ := List.mem_map.1 (htwo (by simpa using Nat.le_antisymm hlen hle))
    exact ⟨mem_tokenLetters_of_lower ha (htoken.symm.trans hs.symm), rfl⟩
  · rintro ⟨hc, rfl⟩
    have hall : ∀ c ∈ tokenLetters, standard.isRegistered ['?', c] = true :=
      List.forall_iff_forall_mem.1 (by decide)
    exact hall c hc

theorem unknown_eq_nil_iff (t : SpecifierTable) (template : Text) :
    t.unknown template = [] ↔ ∀ s ∈ Candidate.matcher.spans template,
      t.isRegistered (s.of template) = true := by
  have herase : ∀ l : List Text, l.eraseDups = [] ↔ l = [] := by
    intro l
    cases l <;> simp [List.eraseDups_cons]
  rw [unknown, herase, List.filter_eq_nil_iff, Candidate.all]
  simp

/-- A template has no unknown token iff every question mark may have the character it has after
it. -/
theorem standard_unknown_eq_nil_iff (template : Text) :
    standard.unknown template = [] ↔
      ∀ k, template[k]? = some '?' → Allows template[k + 1]? := by
  rw [unknown_eq_nil_iff]
  constructor
  · intro hall k hk
    cases hc : template[k + 1]? with
    | none => trivial
    | some c =>
      by_cases hb : Text.isBlank c = true
      · exact Or.inr hb
      · obtain ⟨s, hs, hstart, hstop⟩ := Candidate.exists_span hk hc (Bool.eq_false_iff.2 hb)
        obtain ⟨-, hlen, hmarks, -⟩ := Candidate.of_mem_spans hs
        obtain ⟨d, hd⟩ : ∃ d, template[s.start + 1]? = some d :=
          ⟨_, List.getElem?_eq_getElem (by omega)⟩
        have hof := Span.of_eq_cons_cons (hmarks s.start (Nat.le_refl _) (by omega)) hd (by omega)
        have hreg := hall s hs
        rw [hof, standard_isRegistered_iff] at hreg
        obtain ⟨hletter, hnil⟩ := hreg
        -- a registered candidate has just two characters, so its mark is the one at `k`
        have hshort := congrArg List.length hnil
        rw [List.length_take, List.length_drop, List.length_nil] at hshort
        obtain rfl : k = s.start := by omega
        rw [hc] at hd
        exact Or.inl (Option.some.inj hd ▸ hletter)
  · intro hall s hs
    obtain ⟨hlen, hin, hmarks, c, hc, hblank⟩ := Candidate.of_mem_spans hs
    have hfirst := hmarks s.start (Nat.le_refl _) (by omega)
    have hnext := hall s.start hfirst
    -- a second mark could not follow the first, so the candidate ends after the next character
    have htwo : s.stop = s.start + 2 := by
      by_contra hne
      rw [hmarks (s.start + 1) (by omega) (by omega)] at hnext
      rcases hnext with hletter | hb
      · exact absurd hletter (by decide)
      · exact absurd hb (by decide)
    rw [htwo] at hc
    change template[s.start + 1]? = some c at hc
    rw [hc] at hnext
    rcases hnext with hletter | hb
    · rw [Span.of_eq_cons_cons hfirst hc hlen, standard_isRegistered_iff]
      refine ⟨hletter, ?_⟩
      rw [htwo, Nat.sub_self, List.take_zero]
    · rw [hblank] at hb
      exact absurd hb Bool.false_ne_true

end SpecifierTable
end QueryTemplate
