import QueryTemplate.Proofs.Editing
import QueryTemplate.Proofs.LetterCase
import QueryTemplate.Template.Placeholder

/-! What the table of the five specifiers recognises in a template. -/
namespace QueryTemplate

namespace Text

private theorem lowerRuns_ge :
    ∀ r ∈ lowerRuns, (0x80 : Int) ≤ r.1 + r.2.2.2 ∨ r = (0x212a, 0x212a, 1, -8383) := by
  decide +kernel

/-- Beyond the first 128 characters only the sign for kelvin has a lower case letter among them. -/
private theorem le_apply {n : Nat} (hn : 0x80 ≤ n) :
    0x80 ≤ lowerRuns.apply n ∨ lowerRuns.apply n = 'k'.toNat := by
  rcases CaseRuns.apply_cases lowerRuns n with h | ⟨r, hr, ⟨hfirst, hlast, -⟩, h⟩ <;> rw [h]
  · exact Or.inl hn
  · rcases lowerRuns_ge r hr with hge | rfl
    · left
      unfold CaseRuns.image
      omega
    · right
      rw [Nat.le_antisymm hlast hfirst]
      rfl

/-- The lower case letter of a character beyond the first 128 is no such character, but for a
dotless `i`, a `k`, and the null character. -/
private theorem lowerLetter_of_le {c : Char} (hc : 0x80 ≤ c.toNat) :
    lowerLetter c = 'i' ∨ (lowerLetter c).toNat = 'k'.toNat ∨ (lowerLetter c).toNat = 0 ∨
      0x80 ≤ (lowerLetter c).toNat := by
  have hn : ¬ c.toNat < 0x80 := by omega
  rw [lowerLetter, if_neg hn]
  split_ifs
  · exact Or.inl rfl
  · rcases toNat_ofNat (lowerRuns.apply c.toNat) with h | h
    · rw [h]
      rcases le_apply hc with h' | h'
      · exact Or.inr (Or.inr (Or.inr h'))
      · exact Or.inr (Or.inl h')
    · exact Or.inr (Or.inr (Or.inl h))

/-- The characters that tokens of the standard table consist of. -/
def tokenChars : List Char := ['?', 'd', 'f', 'a', '#']

private theorem eq_of_toLower :
    ∀ a ∈ tokenChars, ∀ n < 0x80, (Char.ofNat n).toLower = a →
      Char.ofNat n = a ∨ Char.ofNat n = a.toUpper :=
  List.forall_iff_forall_mem.1 (by decide +kernel)

private theorem sameUpper_tokenChars :
    ∀ a ∈ tokenChars, (∀ group ∈ sameUpper, a.toNat ∉ group) ∧ lowerLetter a = a ∧
      lowerLetter a.toUpper = a ∧ a.toNat ≠ 0 ∧ a.toNat ≠ 'k'.toNat ∧ a ≠ 'i' ∧ a.toNat < 0x80 :=
  List.forall_iff_forall_mem.1 (by decide +kernel)

/-- No letter of another script counts as one of a standard token. -/
theorem sameLetter_iff {a : Char} (ha : a ∈ tokenChars) (c : Char) :
    sameLetter a c = true ↔ c = a ∨ c = a.toUpper := by
  obtain ⟨hgroups, hlower, hupper, hzero, hkelvin, hi, hsmall⟩ := sameUpper_tokenChars a ha
  have hnone : (sameUpper.any fun group =>
      group.contains (lowerLetter a).toNat && group.contains (lowerLetter c).toNat) = false := by
    rw [List.any_eq_false]
    intro group hg
    rw [hlower]
    simp [hgroups group hg]
  rw [sameLetter, hnone, Bool.or_false, hlower, beq_iff_eq]
  constructor
  · intro h
    by_cases hc : c.toNat < 0x80
    · rw [lowerLetter, if_pos hc, ← Char.ofNat_toNat c] at h
      rw [← Char.ofNat_toNat c]
      exact eq_of_toLower a ha c.toNat hc h.symm
    · rcases lowerLetter_of_le (Nat.le_of_not_lt hc) with h' | h' | h' | h' <;> rw [← h] at h'
      · exact absurd h' hi
      · exact absurd h' hkelvin
      · exact absurd h' hzero
      · omega
  · rintro (rfl | rfl)
    · exact hlower.symm
    · exact hupper.symm

theorem length_le_of_beginsWith {part text : Text} (h : beginsWith part text = true) :
    part.length ≤ text.length := by
  induction part generalizing text with
  | nil => exact Nat.zero_le _
  | cons a part ih =>
    cases text with
    | nil => exact absurd h Bool.false_ne_true
    | cons b text =>
      rw [beginsWith, Bool.and_eq_true] at h
      exact Nat.succ_le_succ (ih h.2)

end Text

theorem Specifier.matchLength?_bounds {s : Specifier} {text : Text} {k : Nat}
    (h : s.matchLength? text = some k) : k ≤ text.length ∧ (s.token ≠ [] → 0 < k) := by
  unfold Specifier.matchLength? at h
  split at h
  · split_ifs at h with hb
    obtain rfl := Option.some.inj h
    exact ⟨Text.length_le_of_beginsWith hb, List.length_pos_of_ne_nil⟩
  · split at h
    · split_ifs at h
      obtain rfl := Option.some.inj h
      exact ⟨Nat.succ_le_succ (Nat.zero_le _), fun _ => Nat.one_pos⟩
    · exact absurd h (by simp)

namespace SpecifierTable

variable {t : SpecifierTable} {text : Text} {k : Nat}

/-- Each match is one of some specifier. -/
theorem exists_of_mem_matcher (ht : t.specifiers ≠ []) (h : k ∈ t.matcher text) :
    ∃ s ∈ t.specifiers, s.matchLength? text = some k := by
  have hlengths : t.matchLengths text = t.specifiers.filterMap (·.matchLength? text) := by
    rw [matchLengths, if_neg (by simpa using ht)]
  have hmem : k ∈ t.matchLengths text := by
    unfold matcher at h
    split at h
    · exact absurd h List.not_mem_nil
    next rest hr =>
      rw [hr]
      rcases List.mem_cons.1 h with rfl | h
      · exact List.mem_cons_self
      · exact List.mem_cons_of_mem _ (List.mem_of_find?_eq_some (Option.mem_toList.1 h))
    next hr =>
      rw [hr, List.mem_singleton.1 h]
      exact List.mem_cons_self
  rw [hlengths] at hmem
  exact List.mem_filterMap.1 hmem

theorem le_length_of_mem_matcher (h : k ∈ t.matcher text) : k ≤ text.length := by
  by_cases ht : t.specifiers = []
  · have hempty : t.matcher text = [0] := by simp [matcher, matchLengths, ht]
    rw [hempty, List.mem_singleton] at h
    omega
  · obtain ⟨s, -, hmatch⟩ := exists_of_mem_matcher ht h
    exact (Specifier.matchLength?_bounds hmatch).1

/-- Tokens may be empty, and there may be none. -/
theorem matcher_proper (t : SpecifierTable) : t.matcher.Proper := by
  intro text
  refine ⟨?_, fun k hk => le_length_of_mem_matcher hk⟩
  unfold matcher
  split
  next => exact List.Pairwise.nil
  next rest _ =>
    cases hlonger : rest.find? (0 < ·) with
    | none => exact List.pairwise_singleton _ _
    | some k =>
      have hk : 0 < k := by simpa using List.find?_some hlonger
      simpa using hk
  next => exact List.pairwise_singleton _ _

theorem matcher_single (ht : t.specifiers ≠ []) (htok : ∀ s ∈ t.specifiers, s.token ≠ []) :
    t.matcher.Single := by
  intro text
  have hbounds : ∀ k ∈ t.matcher text, 0 < k ∧ k ≤ text.length := by
    intro k hk
    obtain ⟨s, hs, hmatch⟩ := exists_of_mem_matcher ht hk
    have hpos := (Specifier.matchLength?_bounds hmatch).2 (htok s hs)
    exact ⟨hpos, le_length_of_mem_matcher hk⟩
  unfold matcher at hbounds ⊢
  split at hbounds
  next => simp
  next rest _ => exact absurd (hbounds 0 List.mem_cons_self).1 (Nat.lt_irrefl 0)
  next k rest hne _ =>
    have := hbounds k List.mem_cons_self
    right
    refine ⟨k, ?_, this⟩
    cases k with
    | zero => exact absurd this.1 (Nat.lt_irrefl 0)
    | succ k => simp

/-- The characters that may follow a question mark within a token of the standard table. -/
def tokenLetters : List Char := ['d', 'D', 'f', 'F', 'a', 'A', '#']

theorem standard_single : standard.matcher.Single := matcher_single (by decide) (by decide)

private theorem take_of_beginsWith {a : Char} (ha : a ∈ Text.tokenChars)
    (h : Text.beginsWith ['?', a] text = true) :
    ∃ c, text.take 2 = ['?', c] ∧ (c = a ∨ c = a.toUpper) := by
  rcases text with _ | ⟨b, _ | ⟨c, rest⟩⟩
  · exact absurd h Bool.false_ne_true
  · simp [Text.beginsWith] at h
  · simp only [Text.beginsWith, Bool.and_eq_true, Bool.and_true] at h
    rw [Text.sameLetter_iff (by decide), Text.sameLetter_iff ha] at h
    have hb : b = '?' := by rcases h.1 with h | h <;> exact h
    exact ⟨c, by rw [hb]; rfl, h.2⟩

/-- A match of the standard table is a question mark, by itself or with a letter of a token. -/
theorem take_of_mem_standard (h : k ∈ standard.matcher text) :
    text.take k = ['?'] ∨ ∃ c ∈ tokenLetters, text.take k = ['?', c] := by
  obtain ⟨s, hs, hmatch⟩ := exists_of_mem_matcher (by decide) h
  have hletter : ∀ a ∈ ['d', 'f', 'a', '#'], a ∈ tokenLetters ∧ a.toUpper ∈ tokenLetters :=
    List.forall_iff_forall_mem.1 (by decide)
  have htoken : ∀ a ∈ ['d', 'f', 'a', '#'],
      (if Text.beginsWith ['?', a] text then some 2 else none) = some k →
        ∃ c ∈ tokenLetters, text.take k = ['?', c] := by
    intro a ha hk
    split_ifs at hk with hb
    obtain rfl := Option.some.inj hk
    obtain ⟨c, htake, hc⟩ := take_of_beginsWith (List.mem_cons_of_mem _ ha) hb
    refine ⟨c, ?_, htake⟩
    rcases hc with rfl | rfl
    · exact (hletter c ha).1
    · exact (hletter a ha).2
  simp only [standard, List.mem_cons, List.not_mem_nil, or_false] at hs
  rcases hs with rfl | rfl | rfl | rfl | rfl
  · exact Or.inr (htoken 'd' (by decide) hmatch)
  · exact Or.inr (htoken 'f' (by decide) hmatch)
  · exact Or.inr (htoken 'a' (by decide) hmatch)
  · exact Or.inr (htoken '#' (by decide) hmatch)
  · left
    simp only [Specifier.matchLength?, Specifier.any] at hmatch
    split at hmatch
    · split_ifs at hmatch
      rw [← Option.some.inj hmatch]
      rfl
    · exact absurd hmatch (by simp)

end SpecifierTable

/-- The stretch of its template that a placeholder takes up. -/
def Placeholder.span (p : Placeholder) : Span := ⟨p.start.toNat, p.stop.toNat⟩

namespace SpecifierTable

variable {t : SpecifierTable} {template : Text} {p : Placeholder}

theorem map_span_scanBy (t : SpecifierTable) (m : Matcher) (template : Text) :
    (t.scanBy m template).map Placeholder.span = m.spans template := by
  refine List.ext_getElem? fun i => ?_
  rw [List.getElem?_map, scanBy, List.getElem?_mapIdx, Option.map_map]
  exact Option.map_id'

theorem map_span_scan (t : SpecifierTable) (template : Text) :
    (t.scan template).map Placeholder.span = t.matcher.spans template :=
  map_span_scanBy t t.matcher template

theorem mem_scanBy {m : Matcher} (hp : p ∈ t.scanBy m template) :
    p.span ∈ m.spans template ∧ p.start = p.span.start ∧ p.stop = p.span.stop ∧
      p.token = Text.lower (p.span.of template) ∧ p.kind = t.kind? p.token := by
  obtain ⟨i, hi, rfl⟩ := List.mem_mapIdx.1 hp
  exact ⟨List.getElem_mem hi, rfl, rfl, rfl, rfl⟩

theorem mem_scan (hp : p ∈ t.scan template) :
    p.span ∈ t.matcher.spans template ∧ p.start = p.span.start ∧ p.stop = p.span.stop ∧
      p.token = Text.lower (p.span.of template) ∧ p.kind = t.kind? p.token :=
  mem_scanBy hp

/-- Placeholders are numbered from left to right. -/
theorem position_of_getElem?_scan {i : Nat} (h : (t.scan template)[i]? = some p) :
    p.position = i := by
  rw [scan, scanBy, List.getElem?_mapIdx] at h
  obtain ⟨s, -, rfl⟩ := Option.map_eq_some_iff.1 h
  rfl

theorem position_lt_of_mem_scan (hp : p ∈ t.scan template) :
    p.position < (t.scan template).length := by
  obtain ⟨i, hi⟩ := List.getElem?_of_mem hp
  rw [position_of_getElem?_scan hi]
  exact (List.getElem?_eq_some_iff.1 hi).1

theorem pairwise_position_scan (t : SpecifierTable) (template : Text) :
    (t.scan template).Pairwise fun p q => p.position < q.position := by
  rw [List.pairwise_iff_getElem]
  intro i j hi hj hij
  rw [position_of_getElem?_scan (List.getElem?_eq_getElem hi),
    position_of_getElem?_scan (List.getElem?_eq_getElem hj)]
  exact hij

theorem pairwise_span_scanBy {m : Matcher} (hm : m.Proper) (t : SpecifierTable) (template : Text) :
    (t.scanBy m template).Pairwise fun p q => p.span.stop ≤ q.span.start := by
  have h := Matcher.pairwise_spans hm template
  rw [← map_span_scanBy t] at h
  exact List.pairwise_map.1 h

theorem of_span_standard {s : Span} (hs : s ∈ standard.matcher.spans template) :
    (s.of template = ['?'] ∧ s.stop = s.start + 1) ∨
      ∃ c ∈ tokenLetters, s.of template = ['?', c] ∧ s.stop = s.start + 2 := by
  obtain ⟨hstart, k, hk, hstop⟩ := Matcher.mem_spans hs
  have hle : k ≤ (template.drop s.start).length := (standard_single.proper _).2 k hk
  have hof : s.of template = (template.drop s.start).take k := by
    rw [Span.of, hstop, Nat.add_sub_cancel_left]
  have hlen : (s.of template).length = k := by rw [hof, List.length_take_of_le hle]
  rcases take_of_mem_standard hk with h | ⟨c, hc, h⟩ <;> rw [← hof] at h <;> rw [h] at hlen
  · exact Or.inl ⟨h, by rw [hstop, ← hlen]; rfl⟩
  · exact Or.inr ⟨c, hc, h, by rw [hstop, ← hlen]; rfl⟩

/-- Every placeholder of the standard table has the token of just one of its specifiers. -/
theorem exists_standard_of_mem_scan (hp : p ∈ standard.scan template) :
    ∃ s ∈ standard.specifiers, s.token = p.token ∧ standard.get? p.token = some s ∧
      standard.specifiers.find? (·.token == p.token) = some s := by
  obtain ⟨hspan, -, -, htoken, -⟩ := mem_scan hp
  have hmark : ∃ s ∈ standard.specifiers, s.token = Text.lower ['?'] ∧
      standard.get? (Text.lower ['?']) = some s ∧
      standard.specifiers.find? (·.token == Text.lower ['?']) = some s := by decide
  have hletter : ∀ c ∈ tokenLetters, ∃ s ∈ standard.specifiers, s.token = Text.lower ['?', c] ∧
      standard.get? (Text.lower ['?', c]) = some s ∧
      standard.specifiers.find? (·.token == Text.lower ['?', c]) = some s :=
    List.forall_iff_forall_mem.1 (by decide)
  rw [htoken]
  rcases of_span_standard hspan with ⟨h, -⟩ | ⟨c, hc, h, -⟩
  · rw [h]
    exact hmark
  · rw [h]
    exact hletter c hc

theorem getElem?_of_covers {s : Span} (hs : s ∈ standard.matcher.spans template) {k : Nat}
    (hk : s.covers k) : ∃ c, template[k]? = some c ∧ (c = '?' ∨ c ∈ tokenLetters) := by
  rw [Span.covers_iff] at hk
  have hat : template[k]? = (s.of template)[k - s.start]? := by
    rw [Span.getElem?_of (by omega), Nat.add_sub_cancel' hk.1]
  rw [hat]
  rcases of_span_standard hs with ⟨h, hstop⟩ | ⟨c, hc, h, hstop⟩
  · obtain rfl : k = s.start := by omega
    exact ⟨'?', by simp [h], Or.inl rfl⟩
  · rcases (by omega : k = s.start ∨ k = s.start + 1) with rfl | rfl
    · exact ⟨'?', by simp [h], Or.inl rfl⟩
    · exact ⟨c, by simp [h], Or.inr hc⟩

end SpecifierTable
end QueryTemplate
