import QueryTemplate.Proofs.Blocks

/-! Two texts put together: matches, edits and blocks on either side of the seam. -/
namespace QueryTemplate

variable {t₁ t₂ : Text}

namespace Span

/-- The span where it stands behind `n` more characters. -/
def moved (n : Nat) (s : Span) : Span := ⟨s.start + n, s.stop + n⟩

theorem of_append_left {s : Span} (h : s.stop ≤ t₁.length) : s.of (t₁ ++ t₂) = s.of t₁ := by
  unfold Span.of
  by_cases hs : s.start ≤ t₁.length
  · rw [List.drop_append_of_le_length hs, List.take_append_of_le_length]
    rw [List.length_drop]
    omega
  · have hnone : s.stop - s.start = 0 := by omega
    rw [hnone, List.take_zero, List.take_zero]

theorem of_append_moved (s : Span) : (s.moved t₁.length).of (t₁ ++ t₂) = s.of t₂ := by
  have hlen : (s.moved t₁.length).stop - (s.moved t₁.length).start = s.stop - s.start :=
    Nat.add_sub_add_right _ _ _
  have hdrop : (t₁ ++ t₂).drop (s.moved t₁.length).start = t₂.drop s.start := by
    show (t₁ ++ t₂).drop (s.start + t₁.length) = t₂.drop s.start
    rw [Nat.add_comm, ← List.drop_drop, List.drop_left]
  unfold Span.of
  rw [hlen, hdrop]

theorem covers_moved (s : Span) (n k : Nat) : (s.moved n).covers (n + k) = s.covers k := by
  rw [Bool.eq_iff_iff, covers_iff, covers_iff]
  unfold moved
  dsimp only
  omega

end Span

namespace Matcher

variable {m : Matcher}

/-- Does no match that begins in the first text look beyond its end? -/
def Apart (m : Matcher) (t₁ t₂ : Text) : Prop := ∀ u, u <:+ t₁ → u ≠ [] → m (u ++ t₂) = m u

theorem Apart.head {c : Char} (h : m.Apart (c :: t₁) t₂) : m (c :: (t₁ ++ t₂)) = m (c :: t₁) :=
  h (c :: t₁) (List.suffix_refl _) (List.cons_ne_nil _ _)

theorem Apart.tail {c : Char} (h : m.Apart (c :: t₁) t₂) : m.Apart t₁ t₂ :=
  fun u hu => h u (hu.trans (List.suffix_cons c t₁))

theorem spansFrom_add (m : Matcher) (n i taken : Nat) (text : Text) :
    m.spansFrom (i + n) taken text = (m.spansFrom i taken text).map (·.moved n) := by
  have hhere : ∀ (i : Nat) (ks : List Nat), ks.map (fun k => (⟨i + n, i + n + k⟩ : Span)) =
      (ks.map fun k => (⟨i, i + k⟩ : Span)).map (·.moved n) := by
    intro i ks
    rw [List.map_map]
    refine List.map_congr_left fun k _ => ?_
    rw [Function.comp_apply, Span.moved, Nat.add_right_comm]
  induction text generalizing i taken with
  | nil =>
    cases taken with
    | zero => exact hhere i _
    | succ taken => rfl
  | cons c rest ih =>
    cases taken with
    | zero =>
      unfold spansFrom
      rw [List.map_append, hhere, Nat.add_right_comm, ih]
    | succ taken =>
      unfold spansFrom
      rw [Nat.add_right_comm, ih]

/-- The scan of the second text begins afresh where the first one ends. -/
theorem spansFrom_append (hm : m.Single) (h : m.Apart t₁ t₂) {taken : Nat}
    (ht : taken ≤ t₁.length) (i : Nat) :
    m.spansFrom i taken (t₁ ++ t₂) =
      m.spansFrom i taken t₁ ++ m.spansFrom (i + t₁.length) 0 t₂ := by
  -- what the match before still takes ends with the first text, and so does each match after it
  induction t₁ generalizing i taken with
  | nil =>
    obtain rfl : taken = 0 := Nat.le_zero.1 ht
    have hnone : m.spansFrom i 0 [] = [] := by
      unfold spansFrom
      rw [hm.nil, List.map_nil]
    rw [hnone]
    rfl
  | cons c rest ih =>
    have hend : i + (c :: rest).length = i + 1 + rest.length := by
      rw [List.length_cons]
      omega
    rw [hend, List.cons_append]
    cases taken with
    | succ taken => exact ih h.tail (Nat.le_of_succ_le_succ ht) (i + 1)
    | zero =>
      rcases hm (c :: rest) with hnone | ⟨k, hone, hpos, hle⟩
      · have hnone' : m (c :: (rest ++ t₂)) = [] := h.head.trans hnone
        rw [spansFrom_cons_of_none hnone, spansFrom_cons_of_none hnone']
        exact ih h.tail (Nat.zero_le _) (i + 1)
      · have hone' : m (c :: (rest ++ t₂)) = [k] := h.head.trans hone
        have hreach : k - 1 ≤ rest.length := by
          rw [List.length_cons] at hle
          omega
        rw [spansFrom_cons_of_one hone, spansFrom_cons_of_one hone', ih h.tail hreach (i + 1),
          List.cons_append]

theorem spans_append (hm : m.Single) (h : m.Apart t₁ t₂) :
    m.spans (t₁ ++ t₂) = m.spans t₁ ++ (m.spans t₂).map (·.moved t₁.length) := by
  unfold spans
  rw [spansFrom_append hm h (Nat.zero_le _) 0, spansFrom_add]

end Matcher

namespace Text

variable {es₁ es₂ : List Edit} {k : Nat}

/-- The edit of a text that stands behind `n` more characters. -/
def movedEdit (n : Nat) (e : Edit) : Edit := (e.1.moved n, e.2)

theorem editedAt_append_left (es₂ : List Edit) (hk : k < t₁.length) :
    (t₁ ++ t₂).editedAt (es₁ ++ es₂.map (movedEdit t₁.length)) k = t₁.editedAt es₁ k := by
  have hnone : (es₂.map (movedEdit t₁.length)).find? (fun e => e.1.covers k) = none := by
    refine List.find?_eq_none.2 fun e he hcov => ?_
    obtain ⟨e', -, rfl⟩ := List.mem_map.1 he
    have hstart : e'.1.start + t₁.length ≤ k := ((Span.covers_iff _ _).1 hcov).1
    omega
  unfold editedAt
  rw [List.find?_append, hnone, Option.or_none, List.getElem?_append_left hk]

theorem editedAt_append_right (h : ∀ e ∈ es₁, e.1.stop ≤ t₁.length) (k : Nat) :
    (t₁ ++ t₂).editedAt (es₁ ++ es₂.map (movedEdit t₁.length)) (t₁.length + k) =
      t₂.editedAt es₂ k := by
  have hnone : es₁.find? (fun e => e.1.covers (t₁.length + k)) = none := by
    refine List.find?_eq_none.2 fun e he hcov => ?_
    have hstop := h e he
    have hlt := ((Span.covers_iff _ _).1 hcov).2
    omega
  have hmoved : (es₂.map (movedEdit t₁.length)).find? (fun e => e.1.covers (t₁.length + k)) =
      (es₂.find? fun e => e.1.covers k).map (movedEdit t₁.length) := by
    rw [List.find?_map]
    refine congrArg _ (congrArg (List.find? · es₂) (funext fun e => ?_))
    exact Span.covers_moved e.1 t₁.length k
  have hchar : (t₁ ++ t₂)[t₁.length + k]? = t₂[k]? := by
    rw [List.getElem?_append_right (Nat.le_add_right _ _), Nat.add_sub_cancel_left]
  unfold editedAt
  rw [List.find?_append, hnone, Option.none_or, hmoved, hchar]
  cases es₂.find? fun e => e.1.covers k with
  | none => rfl
  | some e =>
    have hstart : t₁.length + k = e.1.start + t₁.length ↔ k = e.1.start := by omega
    simp only [Option.map_some, movedEdit, Span.moved, hstart]

/-- Edits of two texts are made on either side of the seam. -/
theorem edited_append (h : ∀ e ∈ es₁, e.1.stop ≤ t₁.length) (es₂ : List Edit) :
    (t₁ ++ t₂).edited (es₁ ++ es₂.map (movedEdit t₁.length)) =
      t₁.edited es₁ ++ t₂.edited es₂ := by
  have hleft : (t₁ ++ t₂).editedFrom (es₁ ++ es₂.map (movedEdit t₁.length)) 0 t₁.length =
      t₁.edited es₁ := by
    refine List.flatMap_congr fun k hk => ?_
    exact editedAt_append_left es₂ (by simpa using hk)
  have hright : (t₁ ++ t₂).editedFrom (es₁ ++ es₂.map (movedEdit t₁.length)) t₁.length
      (t₁.length + t₂.length) = t₂.edited es₂ := by
    have hoffsets : List.range' t₁.length t₂.length =
        (List.range' 0 t₂.length).map (t₁.length + ·) := by
      rw [List.map_add_range', Nat.add_zero]
    unfold edited editedFrom
    rw [Nat.add_sub_cancel_left, Nat.sub_zero, hoffsets, List.flatMap_map]
    exact List.flatMap_congr fun k _ => editedAt_append_right h k
  rw [edited_eq_append (by simp : t₁.length ≤ (t₁ ++ t₂).length), List.length_append, hleft, hright]

end Text

/-- What is put in the place of matches is put there on either side of the seam. -/
theorem Matcher.replace_append {m : Matcher} (hm : m.Single) (h : m.Apart t₁ t₂)
    (f : Text → Text) : m.replace f (t₁ ++ t₂) = m.replace f t₁ ++ m.replace f t₂ := by
  have hedits : (m.spans (t₁ ++ t₂)).map (fun s => (s, f (s.of (t₁ ++ t₂)))) =
      (m.spans t₁).map (fun s => (s, f (s.of t₁))) ++
        ((m.spans t₂).map fun s => (s, f (s.of t₂))).map (Text.movedEdit t₁.length) := by
    rw [spans_append hm h, List.map_append, List.map_map, List.map_map]
    congr 1
    · refine List.map_congr_left fun s hs => ?_
      rw [Span.of_append_left (stop_le_of_mem_spans hm.proper hs)]
    · refine List.map_congr_left fun s _ => ?_
      rw [Function.comp_apply, Span.of_append_moved]
      rfl
  have hinside : ∀ e ∈ (m.spans t₁).map fun s => (s, f (s.of t₁)), e.1.stop ≤ t₁.length := by
    intro e he
    obtain ⟨s, hs, rfl⟩ := List.mem_map.1 he
    exact stop_le_of_mem_spans hm.proper hs
  rw [replace_eq_edited hm, replace_eq_edited hm, replace_eq_edited hm, hedits]
  exact Text.edited_append hinside _

namespace Block

/-- The block as it stands behind `n` more characters. -/
def moved (n : Nat) (b : Block) : Block := ⟨b.content, b.start + n, b.stop + n, b.elided⟩

/-- Is the last brace of the first text one that opens, and the first of the second its match? -/
def Facing (t₁ t₂ : Text) : Prop :=
  (t₁.filter isBrace).getLast? = some '{' ∧ (t₂.filter isBrace).head? = some '}'

instance : Decidable (Facing t₁ t₂) :=
  inferInstanceAs (Decidable ((t₁.filter isBrace).getLast? = some '{' ∧ _))

/-- No block reaches over the seam, unless two braces face each other there. -/
theorem matcher_apart (h : ¬ Facing t₁ t₂) : matcher.Apart t₁ t₂ := by
  intro u hu hne
  obtain ⟨c, rest, rfl⟩ := List.exists_cons_of_ne_nil hne
  have hlength : length? (c :: (rest ++ t₂)) = length? (c :: rest) := by
    rw [length?_cons, length?_cons, List.findIdx_append]
    by_cases hbrace : rest.findIdx isBrace < rest.length
    · rw [if_pos hbrace, List.getElem?_append_left hbrace]
    -- a block that begins here would take its closing brace from the second text
    · have hnone : rest.filter isBrace = [] := by
        refine List.filter_eq_nil_iff.2 fun b hb hb' => ?_
        exact hbrace (List.findIdx_lt_length_of_exists ⟨b, hb, hb'⟩)
      have hfirst : t₂[t₂.findIdx isBrace]? = (t₂.filter isBrace).head? := by
        rw [List.head?_filter, List.find?_eq_getElem?_findIdx]
      have hfacing : ¬ (c = '{' ∧ (t₂.filter isBrace).head? = some '}') := by
        rintro ⟨rfl, hclosing⟩
        obtain ⟨before, rfl⟩ := hu
        refine h ⟨?_, hclosing⟩
        rw [List.filter_append, List.filter_cons_of_pos rfl, hnone, List.getLast?_concat]
      rw [if_neg hbrace, List.getElem?_append_right (Nat.le_add_left _ _), Nat.add_sub_cancel,
        hfirst, if_neg hfacing, List.getElem?_eq_none (Nat.le_of_not_lt hbrace), if_neg (fun h => nomatch h.2)]
  unfold matcher
  rw [List.cons_append, hlength]

theorem find_append (omission : Text) (h : matcher.Apart t₁ t₂) :
    find omission (t₁ ++ t₂) =
      find omission t₁ ++ (find omission t₂).map (moved t₁.length) := by
  unfold find
  rw [Matcher.spans_append matcher_single h, List.map_append, List.map_map, List.map_map]
  congr 1
  · refine List.map_congr_left fun s hs => ?_
    have hstop : s.stop ≤ t₁.length := (mem_spans_iff.1 hs).stop_le
    unfold ofSpan
    rw [Span.of_append_left hstop]
  · refine List.map_congr_left fun s _ => ?_
    unfold Function.comp ofSpan
    rw [Span.of_append_moved]
    rfl

theorem resolve_append (omission : Text) (h : matcher.Apart t₁ t₂) :
    resolve omission (t₁ ++ t₂) = resolve omission t₁ ++ resolve omission t₂ := by
  unfold resolve
  rw [Matcher.replace_append matcher_single h, List.filter_append]

end Block
end QueryTemplate
