import QueryTemplate.Text.Match

/-! Where the matches of a matcher lie: inside the text, in order, none reaching into another. -/
namespace QueryTemplate
namespace Matcher

/-- Of the matches at one place at most one is not empty, it comes last, and none reaches beyond
the text. -/
def Proper (m : Matcher) : Prop :=
  ∀ text, (m text).Pairwise (fun j k => j = 0 ∧ 0 < k) ∧ ∀ k ∈ m text, k ≤ text.length

variable {m : Matcher} {text : Text} {s : Span}

theorem le_getLastD {ks : List Nat} (h : ks.Pairwise fun j k => j = 0 ∧ 0 < k) {k : Nat}
    (hk : k ∈ ks) : k ≤ ks.getLastD 0 := by
  induction ks with
  | nil => exact absurd hk List.not_mem_nil
  | cons j ks ih =>
    cases ks with
    | nil => simp_all
    | cons j' ks =>
      rw [List.pairwise_cons] at h
      rcases List.mem_cons.1 hk with rfl | hk
      · have := (h.1 j' List.mem_cons_self).1
        omega
      · simpa using ih h.2 hk

theorem le_reach (hm : m.Proper) {k : Nat} (hk : k ∈ m text) : k - 1 ≤ reach (m text) :=
  Nat.sub_le_sub_right (le_getLastD (hm text).1 hk) 1

/-- A match begins at some place from the first free one on, and is one of the matcher's there. -/
theorem mem_spansFrom {i taken : Nat} (h : s ∈ m.spansFrom i taken text) :
    ∃ j, taken ≤ j ∧ j ≤ text.length ∧ s.start = i + j ∧
      ∃ k ∈ m (text.drop j), s.stop = s.start + k := by
  induction text generalizing i taken with
  | nil =>
    cases taken with
    | zero =>
      obtain ⟨k, hk, rfl⟩ := List.mem_map.1 h
      exact ⟨0, Nat.le_refl 0, Nat.le_refl 0, rfl, k, hk, rfl⟩
    | succ taken => exact absurd h List.not_mem_nil
  | cons c rest ih =>
    cases taken with
    | zero =>
      rcases List.mem_append.1 h with h | h
      · obtain ⟨k, hk, rfl⟩ := List.mem_map.1 h
        exact ⟨0, Nat.le_refl 0, Nat.zero_le _, rfl, k, hk, rfl⟩
      · obtain ⟨j, -, hj, hs, hk⟩ := ih h
        exact ⟨j + 1, Nat.zero_le _, Nat.succ_le_succ hj, by omega, hk⟩
    | succ taken =>
      obtain ⟨j, ht, hj, hs, hk⟩ := ih h
      exact ⟨j + 1, Nat.succ_le_succ ht, Nat.succ_le_succ hj, by omega, hk⟩

/-- A match ends before the next begins, and no two empty ones are at the same place. -/
theorem pairwise_spansFrom (hm : m.Proper) (i taken : Nat) (text : Text) :
    (m.spansFrom i taken text).Pairwise fun a b => a.stop ≤ b.start ∧ a.start < b.stop := by
  have hhere : ∀ (i : Nat) (text : Text), ((m text).map fun k => (⟨i, i + k⟩ : Span)).Pairwise
      fun a b => a.stop ≤ b.start ∧ a.start < b.stop := by
    intro i text
    refine List.pairwise_map.2 ((hm text).1.imp ?_)
    rintro j k ⟨rfl, hk⟩
    exact ⟨Nat.le_refl _, Nat.lt_add_of_pos_right hk⟩
  induction text generalizing i taken with
  | nil =>
    cases taken with
    | zero => exact hhere i []
    | succ taken => exact List.Pairwise.nil
  | cons c rest ih =>
    cases taken with
    | zero =>
      refine List.pairwise_append.2 ⟨hhere i _, ih _ _, ?_⟩
      intro a ha b hb
      obtain ⟨k, hk, rfl⟩ := List.mem_map.1 ha
      obtain ⟨j, hj, -, hs, k', -, hs'⟩ := mem_spansFrom hb
      have := le_reach hm hk
      dsimp only
      omega
    | succ taken => exact ih _ _

/-- A match counts if none that begins earlier reaches into it. -/
theorem mem_spansFrom_of {i j k taken : Nat} (hk : k ∈ m (text.drop j)) (hj : j ≤ text.length)
    (ht : taken ≤ j) (hfree : ∀ j' < j, ∀ k' ∈ m (text.drop j'), j' + k' ≤ j) :
    ⟨i + j, i + j + k⟩ ∈ m.spansFrom i taken text := by
  induction text generalizing i j taken with
  | nil =>
    obtain rfl : j = 0 := Nat.le_zero.1 hj
    obtain rfl : taken = 0 := Nat.le_zero.1 ht
    exact List.mem_map.2 ⟨k, hk, rfl⟩
  | cons c rest ih =>
    cases j with
    | zero =>
      obtain rfl : taken = 0 := Nat.le_zero.1 ht
      exact List.mem_append_left _ (List.mem_map.2 ⟨k, hk, rfl⟩)
    | succ j =>
      have hnext : ∀ taken, taken ≤ j → ⟨i + (j + 1), i + (j + 1) + k⟩ ∈
          m.spansFrom (i + 1) taken rest := by
        intro taken ht
        have := ih (i := i + 1) hk (Nat.le_of_succ_le_succ hj) ht fun j' hj' k' hk' => by
          have := hfree (j' + 1) (Nat.succ_lt_succ hj') k' hk'
          omega
        rwa [Nat.add_right_comm i 1 j] at this
      cases taken with
      | zero =>
        refine List.mem_append_right _ (hnext _ ?_)
        unfold reach
        rw [List.getLastD_eq_getLast?]
        cases hlast : (m (c :: rest)).getLast? with
        | none => exact Nat.zero_le _
        | some k' =>
          have := hfree 0 (Nat.succ_pos j) k' (List.mem_of_getLast? hlast)
          simp only [Option.getD_some]
          omega
      | succ taken => exact hnext taken (Nat.le_of_succ_le_succ ht)

theorem mem_spans_of {j k : Nat} (hk : k ∈ m (text.drop j)) (hj : j ≤ text.length)
    (hfree : ∀ j' < j, ∀ k' ∈ m (text.drop j'), j' + k' ≤ j) : ⟨j, j + k⟩ ∈ m.spans text := by
  have h := mem_spansFrom_of (i := 0) hk hj (Nat.zero_le j) hfree
  rwa [Nat.zero_add] at h

theorem mem_spans (h : s ∈ m.spans text) :
    s.start ≤ text.length ∧ ∃ k ∈ m (text.drop s.start), s.stop = s.start + k := by
  obtain ⟨j, -, hj, hs, hk⟩ := mem_spansFrom h
  rw [Nat.zero_add] at hs
  exact ⟨hs ▸ hj, by rwa [hs] at hk ⊢⟩

theorem stop_le_of_mem_spans (hm : m.Proper) (h : s ∈ m.spans text) : s.stop ≤ text.length := by
  obtain ⟨hstart, k, hk, hs⟩ := mem_spans h
  have := (hm _).2 k hk
  rw [List.length_drop] at this
  omega

theorem pairwise_spans (hm : m.Proper) (text : Text) :
    (m.spans text).Pairwise fun a b => a.stop ≤ b.start :=
  (pairwise_spansFrom hm 0 0 text).imp And.left

theorem pairwise_spans_start_lt_stop (hm : m.Proper) (text : Text) :
    (m.spans text).Pairwise fun a b => a.start < b.stop :=
  (pairwise_spansFrom hm 0 0 text).imp And.right

theorem spansFrom_cons_of_none {c : Char} {rest : Text} (h : m (c :: rest) = []) (i : Nat) :
    m.spansFrom i 0 (c :: rest) = m.spansFrom (i + 1) 0 rest := by
  rw [spansFrom, h]
  rfl

theorem spansFrom_cons_of_one {c : Char} {rest : Text} {k : Nat} (h : m (c :: rest) = [k])
    (i : Nat) :
    m.spansFrom i 0 (c :: rest) = ⟨i, i + k⟩ :: m.spansFrom (i + 1) (k - 1) rest := by
  rw [spansFrom, h]
  rfl

theorem replaceFrom_cons_of_none {c : Char} {rest : Text} (h : m (c :: rest) = [])
    (f : Text → Text) :
    m.replaceFrom f 0 (c :: rest) = c :: m.replaceFrom f 0 rest := by
  rw [replaceFrom, h]
  rfl

theorem replaceFrom_cons_of_one {c : Char} {rest : Text} {k : Nat} (h : m (c :: rest) = [k])
    (hk : 0 < k) (f : Text → Text) :
    m.replaceFrom f 0 (c :: rest) =
      f ((c :: rest).take k) ++ m.replaceFrom f (k - 1) rest := by
  have hlast : ¬ [k].getLastD 0 = 0 := Nat.ne_of_gt hk
  rw [replaceFrom, h, if_neg hlast, List.append_nil, List.flatMap_singleton]
  rfl

end Matcher

theorem Span.getElem?_of {s : Span} {k : Nat} (hk : k < s.stop - s.start) (text : Text) :
    (s.of text)[k]? = text[s.start + k]? := by
  rw [Span.of, List.getElem?_take_of_lt hk, List.getElem?_drop]

end QueryTemplate
