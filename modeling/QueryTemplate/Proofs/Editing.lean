import Mathlib.Data.List.Basic
import QueryTemplate.Proofs.Matching

/-! Texts with some of their spans replaced, and where the other characters come to stand. -/
namespace QueryTemplate

def Span.covers (s : Span) (k : Nat) : Bool := decide (s.start ≤ k ∧ k < s.stop)

@[simp] theorem Span.covers_iff (s : Span) (k : Nat) :
    s.covers k = true ↔ s.start ≤ k ∧ k < s.stop := by
  simp [covers]

/-- A span of a text and what is to stand in its place. -/
abbrev Edit := Span × Text

namespace Text

variable {text : Text} {edits : List Edit} {i j k : Nat}

/-- What stands at an offset after edits: the new text where a span begins, nothing in the rest of
it, elsewhere the character as it was. Of several spans over an offset the first counts. -/
def editedAt (text : Text) (edits : List Edit) (k : Nat) : Text :=
  match edits.find? fun e => e.1.covers k with
  | some (span, new) => if k = span.start then new else []
  | none => text[k]?.toList

/-- What a stretch of a text becomes by edits. -/
def editedFrom (text : Text) (edits : List Edit) (i j : Nat) : Text :=
  (List.range' i (j - i)).flatMap (text.editedAt edits)

def edited (text : Text) (edits : List Edit) : Text := text.editedFrom edits 0 text.length

theorem editedAt_of_not_covers (h : ∀ e ∈ edits, ¬ e.1.covers k) :
    text.editedAt edits k = text[k]?.toList := by
  have hfind : (edits.find? fun e => e.1.covers k) = none := List.find?_eq_none.2 h
  rw [editedAt, hfind]

theorem editedAt_cons_of_covers {e : Edit} (h : e.1.covers k) :
    text.editedAt (e :: edits) k = if k = e.1.start then e.2 else [] := by
  simp [editedAt, h]

theorem editedAt_cons_of_not_covers {e : Edit} (h : ¬ e.1.covers k) :
    text.editedAt (e :: edits) k = text.editedAt edits k := by
  simp [editedAt, h]

theorem editedFrom_of_le (h : j ≤ i) : text.editedFrom edits i j = [] := by
  have h0 : j - i = 0 := by omega
  rw [editedFrom, h0]
  rfl

theorem editedFrom_append (hij : i ≤ j) (hjk : j ≤ k) :
    text.editedFrom edits i k = text.editedFrom edits i j ++ text.editedFrom edits j k := by
  have hr : List.range' i (k - i) = List.range' i (j - i) ++ List.range' j (k - j) := by
    have hk : k - i = (j - i) + (k - j) := by omega
    have hj : i + 1 * (j - i) = j := by omega
    rw [hk, ← List.range'_append, hj]
  rw [editedFrom, hr, List.flatMap_append, editedFrom, editedFrom]

theorem editedFrom_single (k : Nat) :
    text.editedFrom edits k (k + 1) = text.editedAt edits k := by
  have h1 : k + 1 - k = 1 := by omega
  rw [editedFrom, h1]
  exact List.append_nil _

theorem editedFrom_succ (h : i < j) :
    text.editedFrom edits i j = text.editedAt edits i ++ text.editedFrom edits (i + 1) j := by
  rw [editedFrom_append (Nat.le_succ i) h, editedFrom_single]

theorem editedFrom_congr {edits' : List Edit}
    (h : ∀ k, i ≤ k → k < j → text.editedAt edits k = text.editedAt edits' k) :
    text.editedFrom edits i j = text.editedFrom edits' i j := by
  refine List.flatMap_congr fun k hk => ?_
  obtain ⟨hik, hkj⟩ := List.mem_range'_1.1 hk
  exact h k hik (by omega)

/-- A stretch that no edit touches stays as it was. -/
theorem editedFrom_plain (hij : i ≤ j) (hj : j ≤ text.length)
    (h : ∀ k, i ≤ k → k < j → ∀ e ∈ edits, ¬ e.1.covers k) :
    text.editedFrom edits i j = (text.drop i).take (j - i) := by
  induction hn : j - i generalizing i with
  | zero => rw [editedFrom_of_le (by omega), List.take_zero]
  | succ n ih =>
    have hi : i < j := by omega
    rw [editedFrom_succ hi, editedAt_of_not_covers (h i (Nat.le_refl i) hi),
      ih hi (fun k hk => h k (by omega)) (by omega), List.getElem?_eq_getElem (by omega),
      List.drop_eq_getElem_cons (by omega : i < text.length)]
    rfl

theorem editedFrom_before (hij : i ≤ j) (hj : j ≤ text.length) (h : ∀ e ∈ edits, j ≤ e.1.start) :
    text.editedFrom edits i j = (text.drop i).take (j - i) := by
  refine editedFrom_plain hij hj fun k _ hk e he hcov => ?_
  have := h e he
  rw [Span.covers_iff] at hcov
  omega

/-- Nothing is left of a span beyond the place where its new text stands. -/
theorem editedFrom_within {e : Edit} (hi : e.1.start < i) (hj : j ≤ e.1.stop) :
    text.editedFrom (e :: edits) i j = [] := by
  refine List.flatMap_eq_nil_iff.2 fun k hk => ?_
  rw [List.mem_range'_1] at hk
  rw [editedAt_cons_of_covers (by rw [Span.covers_iff]; omega), if_neg (by omega)]

/-- An edit of a span splits a stretch in what is before it and what comes after. -/
theorem editedFrom_cons {e : Edit} (hi : i ≤ e.1.start) (he : e.1.start < e.1.stop)
    (hj : e.1.stop ≤ j) :
    text.editedFrom (e :: edits) i j =
      text.editedFrom edits i e.1.start ++ e.2 ++ text.editedFrom edits e.1.stop j := by
  have hoff : ∀ k, k < e.1.start ∨ e.1.stop ≤ k →
      text.editedAt (e :: edits) k = text.editedAt edits k := by
    intro k hk
    refine editedAt_cons_of_not_covers ?_
    rw [Span.covers_iff]
    omega
  have hspan : text.editedFrom (e :: edits) e.1.start e.1.stop = e.2 := by
    rw [editedFrom_succ he, editedAt_cons_of_covers (by simp [he]), if_pos rfl,
      editedFrom_within (Nat.lt_succ_self _) (Nat.le_refl _), List.append_nil]
  rw [editedFrom_append hi (by omega : e.1.start ≤ j), editedFrom_append (Nat.le_of_lt he) hj,
    hspan, editedFrom_congr fun k _ hk => hoff k (Or.inl hk),
    editedFrom_congr fun k hk _ => hoff k (Or.inr hk), List.append_assoc]

/-- Where an offset of a text comes to stand by edits. -/
def shifted (text : Text) (edits : List Edit) (k : Nat) : Nat :=
  (text.editedFrom edits 0 k).length

theorem edited_eq_append (hk : k ≤ text.length) :
    text.edited edits = text.editedFrom edits 0 k ++ text.editedFrom edits k text.length :=
  editedFrom_append (Nat.zero_le k) hk

theorem shifted_add (text : Text) (edits : List Edit) (h : i ≤ j) :
    text.shifted edits j = text.shifted edits i + (text.editedFrom edits i j).length := by
  rw [shifted, editedFrom_append (Nat.zero_le i) h, List.length_append, shifted]

theorem shifted_succ (k : Nat) :
    text.shifted edits (k + 1) = text.shifted edits k + (text.editedAt edits k).length := by
  rw [shifted_add text edits (Nat.le_succ k), editedFrom_single]

theorem shifted_le_shifted (text : Text) (edits : List Edit) (h : i ≤ j) :
    text.shifted edits i ≤ text.shifted edits j := by
  rw [shifted_add text edits h]
  exact Nat.le_add_right _ _

/-- A stretch of the edited text between two offsets of the text as it was. -/
theorem slice_edited (edits : List Edit) (hij : i ≤ j) (hj : j ≤ text.length) :
    ((text.edited edits).drop (text.shifted edits i)).take
      (text.shifted edits j - text.shifted edits i) = text.editedFrom edits i j := by
  rw [edited_eq_append hj, editedFrom_append (Nat.zero_le i) hij, List.append_assoc,
    show text.shifted edits i = (text.editedFrom edits 0 i).length from rfl, List.drop_left]
  refine List.take_left' ?_
  have := shifted_add text edits hij
  unfold shifted at this ⊢
  omega

theorem getElem?_edited (hk : k < text.length) {r : Nat}
    (hr : r < (text.editedAt edits k).length) :
    (text.edited edits)[text.shifted edits k + r]? = (text.editedAt edits k)[r]? := by
  have h := slice_edited edits (Nat.le_succ k) hk
  rw [shifted_succ, Nat.add_sub_cancel_left, editedFrom_single] at h
  rw [← List.getElem?_drop, ← h, List.getElem?_take, if_pos hr]

/-- Every character of an edited text stands there for an offset of the text as it was. -/
theorem exists_origin {m n : Nat} (h : n < text.shifted edits m) :
    ∃ k r, k < m ∧ r < (text.editedAt edits k).length ∧ n = text.shifted edits k + r := by
  induction m with
  | zero => exact absurd h (Nat.not_lt_zero n)
  | succ m ih =>
    by_cases hn : n < text.shifted edits m
    · obtain ⟨k, r, hk, hr⟩ := ih hn
      exact ⟨k, r, Nat.lt_succ_of_lt hk, hr⟩
    · rw [shifted_succ] at h
      exact ⟨m, n - text.shifted edits m, Nat.lt_succ_self m, by omega, by omega⟩

/-- Does no edit touch the character at an offset? -/
def Untouched (edits : List Edit) (k : Nat) : Prop := ∀ e ∈ edits, ¬ e.1.covers k

theorem editedAt_of_untouched (h : Untouched edits k) (hk : k < text.length) :
    text.editedAt edits k = [text[k]] := by
  rw [editedAt_of_not_covers h, List.getElem?_eq_getElem hk]
  rfl

theorem shifted_succ_of_untouched (h : Untouched edits k) (hk : k < text.length) :
    text.shifted edits (k + 1) = text.shifted edits k + 1 := by
  rw [shifted_succ, editedAt_of_untouched h hk]
  rfl

theorem shifted_lt_shifted (h : Untouched edits i) (hi : i < text.length) (hij : i < j) :
    text.shifted edits i < text.shifted edits j := by
  have := shifted_le_shifted text edits hij
  rw [shifted_succ_of_untouched h hi] at this
  omega

theorem getElem?_edited_of_untouched (h : Untouched edits k) (hk : k < text.length) :
    (text.edited edits)[text.shifted edits k]? = text[k]? := by
  have he := editedAt_of_untouched h hk
  have hr : 0 < (text.editedAt edits k).length := by simp [he]
  rw [← Nat.add_zero (text.shifted edits k), getElem?_edited hk hr, he, List.getElem?_eq_getElem hk]
  rfl

theorem shifted_of_getElem? (h : Untouched edits k) {c : Char} (hk : text[k]? = some c) :
    (text.edited edits)[text.shifted edits k]? = some c ∧
      text.shifted edits (k + 1) = text.shifted edits k + 1 := by
  obtain ⟨hlt, -⟩ := List.getElem?_eq_some_iff.1 hk
  exact ⟨by rw [getElem?_edited_of_untouched h hlt, hk], shifted_succ_of_untouched h hlt⟩

/-- A character of an edited text was there before, or came in with one of the edits. -/
theorem origin_of_getElem?_edited {n : Nat} {c : Char} (h : (text.edited edits)[n]? = some c) :
    (∃ k, Untouched edits k ∧ text[k]? = some c ∧ n = text.shifted edits k) ∨
      ∃ e ∈ edits, ∃ r, e.2[r]? = some c ∧ n = text.shifted edits e.1.start + r := by
  obtain ⟨hn, -⟩ := List.getElem?_eq_some_iff.1 h
  obtain ⟨k, r, hk, hr, rfl⟩ := exists_origin hn
  rw [getElem?_edited hk hr] at h
  cases hfind : edits.find? fun e => e.1.covers k with
  | none =>
    have hfree : Untouched edits k := List.find?_eq_none.1 hfind
    rw [editedAt_of_untouched hfree hk] at h hr
    obtain rfl : r = 0 := by rw [List.length_singleton] at hr; omega
    rw [List.getElem?_cons_zero] at h
    exact Or.inl ⟨k, hfree, by rw [List.getElem?_eq_getElem hk, h], rfl⟩
  | some e =>
    have hat : text.editedAt edits k = if k = e.1.start then e.2 else [] := by
      rw [editedAt, hfind]
    rw [hat] at h
    split_ifs at h with hstart
    · exact Or.inr ⟨e, List.mem_of_find?_eq_some hfind, r, h, by rw [hstart]⟩
    · exact absurd h (by simp)

theorem lt_of_shifted_lt (text : Text) (edits : List Edit)
    (h : text.shifted edits i < text.shifted edits j) : i < j := by
  by_contra hij
  exact absurd h (Nat.not_lt_of_le (shifted_le_shifted text edits (Nat.le_of_not_lt hij)))

/-- A span of a text where it comes to stand by edits. -/
def shiftedSpan (text : Text) (edits : List Edit) (s : Span) : Span :=
  ⟨text.shifted edits s.start, text.shifted edits s.stop⟩

section Twice

variable {inner outer : List Edit}

private theorem editedFrom_shiftedSpan (hk : k < text.length)
    (h : ∀ e ∈ outer, text.shifted inner e.1.start < text.shifted inner (e.1.start + 1)) :
    (text.edited inner).editedFrom (outer.map fun e => (text.shiftedSpan inner e.1, e.2))
      (text.shifted inner k) (text.shifted inner (k + 1)) = text.editedAt (outer ++ inner) k := by
  induction outer with
  | nil =>
    have hstep : text.shifted inner k ≤ text.shifted inner (k + 1) :=
      shifted_le_shifted text inner k.le_succ
    have hend : text.shifted inner (k + 1) ≤ (text.edited inner).length :=
      shifted_le_shifted text inner (Nat.succ_le_of_lt hk)
    rw [List.map_nil, List.nil_append, editedFrom_plain hstep hend fun _ _ _ e he =>
      absurd he List.not_mem_nil, slice_edited inner k.le_succ hk, editedFrom_single]
  | cons e outer ih =>
    obtain ⟨he, hrest⟩ := List.forall_mem_cons.1 h
    rw [List.map_cons, List.cons_append]
    -- what comes of one offset lies in the shifted span as a whole, or not at all
    by_cases hc : e.1.covers k
    · have hcov := (Span.covers_iff _ _).1 hc
      have hstop := shifted_le_shifted text inner (Nat.succ_le_of_lt hcov.2)
      rw [editedAt_cons_of_covers hc]
      by_cases hstart : k = e.1.start
      · have hfirst : (text.shiftedSpan inner e.1).covers (text.shifted inner k) := by
          rw [Span.covers_iff, hstart]
          exact ⟨Nat.le_refl _, Nat.lt_of_lt_of_le he (hstart ▸ hstop)⟩
        rw [if_pos hstart, editedFrom_succ (hstart ▸ he), editedAt_cons_of_covers hfirst,
          if_pos (by rw [hstart]; rfl), editedFrom_within _ hstop, List.append_nil]
        rw [hstart]
        exact Nat.lt_succ_self _
      · have hlater := shifted_le_shifted text inner (by omega : e.1.start + 1 ≤ k)
        rw [if_neg hstart, editedFrom_within (Nat.lt_of_lt_of_le he hlater) hstop]
    · rw [editedAt_cons_of_not_covers hc, ← ih hrest]
      refine editedFrom_congr fun n hn hn' => editedAt_cons_of_not_covers fun hcn => hc ?_
      rw [Span.covers_iff] at hcn ⊢
      obtain ⟨hle, hlt⟩ := hcn
      constructor
      · by_contra hlt'
        have := shifted_le_shifted text inner (by omega : k + 1 ≤ e.1.start)
        exact absurd (Nat.lt_of_lt_of_le hn' (Nat.le_trans this hle)) (Nat.lt_irrefl _)
      · by_contra hle'
        have := shifted_le_shifted text inner (Nat.le_of_not_lt hle')
        exact absurd (Nat.lt_of_lt_of_le hlt (Nat.le_trans this hn)) (Nat.lt_irrefl _)

/-- To edit spans of a text that was edited before, where they stand by then, is to edit them
first of all. -/
theorem edited_edited
    (h : ∀ e ∈ outer, text.shifted inner e.1.start < text.shifted inner (e.1.start + 1)) :
    (text.edited inner).edited (outer.map fun e => (text.shiftedSpan inner e.1, e.2)) =
      text.edited (outer ++ inner) := by
  have hprefix : ∀ n, n ≤ text.length →
      (text.edited inner).editedFrom (outer.map fun e => (text.shiftedSpan inner e.1, e.2)) 0
        (text.shifted inner n) = text.editedFrom (outer ++ inner) 0 n := by
    intro n hn
    induction n with
    | zero => rfl
    | succ n ih =>
      rw [editedFrom_append (Nat.zero_le _) (shifted_le_shifted text inner n.le_succ),
        ih (Nat.le_of_succ_le hn), editedFrom_shiftedSpan hn h,
        editedFrom_append (Nat.zero_le _) n.le_succ, editedFrom_single]
  exact hprefix text.length (Nat.le_refl _)

end Twice

end Text

namespace Matcher

/-- At each place one match at most, which is not empty and lies inside the text. -/
def Single (m : Matcher) : Prop :=
  ∀ text, m text = [] ∨ ∃ k, m text = [k] ∧ 0 < k ∧ k ≤ text.length

variable {m : Matcher}

theorem Single.proper (hm : m.Single) : m.Proper := by
  intro text
  rcases hm text with h | ⟨k, h, hk, hl⟩ <;> simp [h]
  exact hl

theorem Single.start_lt_stop (hm : m.Single) {text : Text} {s : Span} (h : s ∈ m.spans text) :
    s.start < s.stop := by
  obtain ⟨-, k, hk, hs⟩ := mem_spans h
  rcases hm (text.drop s.start) with hn | ⟨k', hk', hpos, -⟩
  · rw [hn] at hk
    exact absurd hk List.not_mem_nil
  · rw [hk', List.mem_singleton] at hk
    omega

theorem Single.nil (hm : m.Single) : m [] = [] := by
  rcases hm [] with h | ⟨k, -, hk, hl⟩
  · exact h
  · exact absurd hl (Nat.not_le_of_lt hk)

private theorem replaceFrom_eq_editedFrom (hm : m.Single) (f : Text → Text) (text : Text)
    {rest : Text} {i taken : Nat} (hrest : text.drop i = rest) (ht : taken ≤ rest.length) :
    m.replaceFrom f taken rest =
      text.editedFrom ((m.spansFrom i taken rest).map fun s => (s, f (s.of text))) (i + taken)
        text.length := by
  -- the rest of the text begins at `i`, and its first characters may belong to the last match
  induction rest generalizing i taken with
  | nil =>
    obtain rfl : taken = 0 := Nat.le_zero.1 ht
    have hi : text.length ≤ i + 0 := List.drop_eq_nil_iff.1 hrest
    rw [replaceFrom, hm.nil, Text.editedFrom_of_le hi]
    rfl
  | cons c rest ih =>
    have hnext : text.drop (i + 1) = rest := by rw [← List.tail_drop, hrest, List.tail_cons]
    have hlen : text.length - i = rest.length + 1 := by
      rw [← List.length_drop, hrest, List.length_cons]
    cases taken with
    | succ taken =>
      rw [replaceFrom, spansFrom, ih hnext (Nat.le_of_succ_le_succ ht)]
      congr 1
      omega
    | zero =>
      rcases hm (c :: rest) with h | ⟨k, h, hk, hl⟩
      · have hc : text[i]? = some c := by rw [← List.head?_drop, hrest, List.head?_cons]
        have huntouched : Text.Untouched
            ((m.spansFrom (i + 1) 0 rest).map fun s => (s, f (s.of text))) i := by
          intro e he hcov
          obtain ⟨s, hs, rfl⟩ := List.mem_map.1 he
          obtain ⟨j, -, -, hj, -⟩ := mem_spansFrom hs
          rw [Span.covers_iff] at hcov
          dsimp only at hcov
          omega
        rw [replaceFrom_cons_of_none h, spansFrom_cons_of_none h, Nat.add_zero i,
          Text.editedFrom_succ (by omega), Text.editedAt_of_not_covers huntouched, hc,
          ih hnext (Nat.zero_le _)]
        rfl
      · rw [List.length_cons] at hl
        have hof : (⟨i, i + k⟩ : Span).of text = (c :: rest).take k := by
          rw [Span.of, hrest, Nat.add_sub_cancel_left]
        have hstop : i + 1 + (k - 1) = i + k := by omega
        rw [replaceFrom_cons_of_one h hk, spansFrom_cons_of_one h, List.map_cons, Nat.add_zero i,
          Text.editedFrom_cons (Nat.le_refl i) (Nat.lt_add_of_pos_right hk) (by dsimp only; omega),
          Text.editedFrom_of_le (Nat.le_refl i), List.nil_append, ih hnext (by omega), hstop, hof]

/-- To replace the matches of a text is to edit their spans. -/
theorem replace_eq_edited (hm : m.Single) (f : Text → Text) (text : Text) :
    m.replace f text = text.edited ((m.spans text).map fun s => (s, f (s.of text))) :=
  replaceFrom_eq_editedFrom hm f text List.drop_zero (Nat.zero_le _)

end Matcher
end QueryTemplate
