import Mathlib.Data.List.Basic
import QueryTemplate.Proofs.Editing
import QueryTemplate.Query.Block

/-! Which stretches of a text are its blocks, and what is left when they are resolved. -/
namespace QueryTemplate
namespace Block

/-- Does a span run from an opening brace to a closing one, with no brace between them? -/
structure Encloses (text : Text) (s : Span) : Prop where
  opened : text[s.start]? = some '{'
  ordered : s.start + 2 ≤ s.stop
  closed : text[s.stop - 1]? = some '}'
  between : ∀ k, s.start < k → k + 1 < s.stop → ∀ c, text[k]? = some c → isBrace c = false

variable {text omission : Text} {s : Span} {k : Nat}

theorem length?_cons (c : Char) (rest : Text) :
    length? (c :: rest) = if c = '{' ∧ rest[rest.findIdx isBrace]? = some '}'
      then some (rest.findIdx isBrace + 2) else none := by
  have hcontent : rest.takeWhile (!isBrace ·) = rest.take (rest.findIdx isBrace) := by
    rw [List.takeWhile_eq_take_findIdx_not]
    simp only [Bool.not_not]
  have hlen : (rest.takeWhile (!isBrace ·)).length = rest.findIdx isBrace := by
    rw [hcontent, List.length_take_of_le List.findIdx_le_length]
  by_cases hc : c = '{'
  · subst hc
    simp only [length?, hlen, true_and]
  · rw [if_neg fun h => hc h.1]
    unfold length?
    split
    next heq => exact absurd (List.cons.inj heq).1 hc
    next => rfl

/-- The matcher for blocks finds what is enclosed at the head of a text. -/
theorem length?_eq_some_iff : length? text = some k ↔ Encloses text ⟨0, k⟩ := by
  cases text with
  | nil => exact iff_of_false (by simp [length?]) fun h => absurd h.opened (by simp)
  | cons c rest =>
    rw [length?_cons]
    constructor
    · intro h
      split_ifs at h with hc
      obtain rfl := Option.some.inj h
      refine ⟨by rw [hc.1]; rfl, Nat.le_add_left _ _, hc.2, fun j hj hjk d hd => ?_⟩
      obtain ⟨j, rfl⟩ := Nat.exists_eq_add_of_lt hj
      rw [Nat.zero_add, List.getElem?_cons_succ] at hd
      obtain ⟨hlt, rfl⟩ := List.getElem?_eq_some_iff.1 hd
      exact List.not_of_lt_findIdx (by dsimp only at hjk; omega)
    · rintro ⟨hopened, hordered, hclosed, hbetween⟩
      dsimp only at hopened hordered hclosed hbetween
      obtain ⟨n, rfl⟩ := Nat.exists_eq_add_of_le' hordered
      rw [Nat.zero_add, show n + 2 - 1 = n + 1 from rfl, List.getElem?_cons_succ] at hclosed
      obtain ⟨hn, hbrace⟩ := List.getElem?_eq_some_iff.1 hclosed
      have hidx : rest.findIdx isBrace = n := by
        rw [List.findIdx_eq hn, hbrace]
        refine ⟨rfl, fun j hj => hbetween (j + 1) (Nat.succ_pos j) (by omega) _ ?_⟩
        rw [List.getElem?_cons_succ, List.getElem?_eq_getElem]
      rw [hidx, hclosed, if_pos ⟨Option.some.inj hopened, rfl⟩]

theorem encloses_drop {i : Nat} : Encloses (text.drop i) ⟨0, k⟩ ↔ Encloses text ⟨i, i + k⟩ := by
  constructor
  · rintro ⟨hopened, hordered, hclosed, hbetween⟩
    dsimp only at hordered hclosed hbetween
    rw [List.getElem?_drop] at hopened hclosed
    refine ⟨hopened, by dsimp only; omega, ?_, fun j hj hjk c hc => ?_⟩
    · rwa [← Nat.add_sub_assoc (by omega)] at hclosed
    · refine hbetween (j - i) (by dsimp only at hj; omega) (by dsimp only at hjk; omega) c ?_
      rwa [List.getElem?_drop, Nat.add_sub_cancel' (by dsimp only at hj; omega)]
  · rintro ⟨hopened, hordered, hclosed, hbetween⟩
    dsimp only at hopened hordered hclosed hbetween
    refine ⟨by rwa [List.getElem?_drop], by dsimp only; omega, ?_, fun j hj hjk c hc => ?_⟩
    · rw [List.getElem?_drop]
      dsimp only
      rwa [← Nat.add_sub_assoc (by omega)]
    · rw [List.getElem?_drop] at hc
      exact hbetween (i + j) (by dsimp only at hj; omega) (by dsimp only at hjk; omega) c hc

theorem mem_matcher : k ∈ matcher text ↔ Encloses text ⟨0, k⟩ := by
  rw [matcher, Option.mem_toList, length?_eq_some_iff]

theorem Encloses.stop_le (h : Encloses text s) : s.stop ≤ text.length := by
  obtain ⟨hlt, -⟩ := List.getElem?_eq_some_iff.1 h.closed
  have := h.ordered
  omega

theorem matcher_single : matcher.Single := by
  intro text
  cases h : length? text with
  | none => exact Or.inl (by rw [matcher, h]; rfl)
  | some k =>
    have henc := length?_eq_some_iff.1 h
    have hpos := henc.ordered
    exact Or.inr ⟨k, by rw [matcher, h]; rfl, by dsimp only at hpos; omega, henc.stop_le⟩

/-- What is enclosed does not overlap. -/
theorem Encloses.stop_le_start {a b : Span} (ha : Encloses text a) (hb : Encloses text b)
    (h : a.start < b.start) : a.stop ≤ b.start := by
  by_contra hlt
  by_cases hlast : b.start + 1 < a.stop
  · have := ha.between b.start h hlast '{' hb.opened
    exact absurd this (by decide)
  · have hat : a.stop - 1 = b.start := by omega
    have hclosed := ha.closed
    rw [hat, hb.opened] at hclosed
    exact absurd hclosed (by decide)

/-- The blocks of a text are the braced stretches without a brace inside, all of them. -/
theorem mem_spans_iff : s ∈ matcher.spans text ↔ Encloses text s := by
  constructor
  · intro h
    obtain ⟨-, k, hk, hstop⟩ := Matcher.mem_spans h
    have henc := encloses_drop.1 (mem_matcher.1 hk)
    rwa [← hstop] at henc
  · intro h
    have hordered := h.ordered
    have hstop : s.start + (s.stop - s.start) = s.stop := by omega
    have hle := h.stop_le
    have henc : Encloses text ⟨s.start, s.start + (s.stop - s.start)⟩ := by rwa [hstop]
    have hmem := Matcher.mem_spans_of (mem_matcher.2 (encloses_drop.2 henc)) (by omega)
      fun j hj k hk => (encloses_drop.1 (mem_matcher.1 hk)).stop_le_start h hj
    rwa [hstop] at hmem

/-- The stretch that a block takes up. -/
def span (b : Block) : Span := ⟨b.start, b.stop⟩

@[simp] theorem span_ofSpan (omission text : Text) (s : Span) :
    (ofSpan omission text s).span = s := rfl

theorem mem_find {b : Block} (hb : b ∈ find omission text) :
    Encloses text b.span ∧ b = ofSpan omission text b.span := by
  obtain ⟨s, hs, rfl⟩ := List.mem_map.1 hb
  exact ⟨mem_spans_iff.1 hs, rfl⟩

theorem contentOf_of (h : Encloses text s) :
    contentOf (s.of text) = (text.drop (s.start + 1)).take (s.stop - 1 - (s.start + 1)) := by
  have hordered := h.ordered
  have hle := h.stop_le
  rw [contentOf, Span.of, List.drop_take, List.drop_drop, List.dropLast_eq_take,
    List.length_take_of_le (by rw [List.length_drop]; omega), List.take_take]
  congr 1
  omega

theorem Encloses.of_eq (h : Encloses text s) :
    s.of text = '{' :: contentOf (s.of text) ++ ['}'] := by
  have hordered := h.ordered
  have hlen : (s.of text).length = s.stop - s.start := by
    have := h.stop_le
    rw [Span.of, List.length_take_of_le]
    rw [List.length_drop]
    omega
  have hfirst := Span.getElem?_of (by omega : 0 < s.stop - s.start) text
  have hlast := Span.getElem?_of (by omega : s.stop - s.start - 1 < s.stop - s.start) text
  rw [Nat.add_zero s.start, h.opened] at hfirst
  rw [show s.start + (s.stop - s.start - 1) = s.stop - 1 by omega, h.closed] at hlast
  cases hof : s.of text with
  | nil => simp [hof] at hfirst
  | cons c rest =>
    rw [hof, List.length_cons] at hlen
    rw [hof, ← hlen, Nat.add_sub_cancel] at hlast
    rw [hof] at hfirst
    obtain rfl := Option.some.inj hfirst
    have hend : rest.getLast? = some '}' := by
      obtain ⟨n, hn⟩ : ∃ n, rest.length = n + 1 := ⟨rest.length - 1, by omega⟩
      rw [hn, List.getElem?_cons_succ] at hlast
      rw [List.getLast?_eq_getElem?, hn, Nat.add_sub_cancel, hlast]
    change '{' :: rest = '{' :: (rest.dropLast ++ ['}'])
    rw [List.dropLast_append_getLast? _ hend]

theorem pairwise_find (omission text : Text) :
    (find omission text).Pairwise fun a b => a.stop ≤ b.start :=
  List.pairwise_map.2 (Matcher.pairwise_spans matcher_single.proper text)

/-- What is to stand in the place of a block: its content, or nothing if it is elided. -/
def kept (b : Block) : Edit := (b.span, if b.elided then [] else b.content)

/-- To resolve a text is to unwrap or drop each block and then every brace that is left. -/
theorem resolve_eq_edited (omission text : Text) :
    resolve omission text = (text.edited ((find omission text).map kept)).filter (!isBrace ·) := by
  rw [resolve, Matcher.replace_eq_edited matcher_single, find, List.map_map]
  rfl

/-- The edit that takes a block out. -/
def cut (b : Block) : Edit := (b.span, [])

private theorem filter_editedFrom_kept {blocks : List Block} {i : Nat}
    (hmem : ∀ b ∈ blocks, Encloses text b.span ∧ b = ofSpan omission text b.span)
    (hord : blocks.Pairwise fun a b => a.stop ≤ b.start) (hi : ∀ b ∈ blocks, i ≤ b.start) :
    (text.editedFrom (blocks.map kept) i text.length).filter (!isBrace ·) =
      (text.editedFrom ((blocks.filter (·.elided)).map cut) i text.length).filter
        (!isBrace ·) := by
  induction blocks generalizing i with
  | nil => rfl
  | cons b blocks ih =>
    obtain ⟨⟨henc, hb⟩, hmem⟩ := List.forall_mem_cons.1 hmem
    obtain ⟨hafter, hord⟩ := List.pairwise_cons.1 hord
    have hib : i ≤ b.span.start := hi b List.mem_cons_self
    have hlt : b.span.start < b.span.stop := by
      have := henc.ordered
      omega
    have hstop : b.span.stop ≤ text.length := henc.stop_le
    have hkept : ∀ e ∈ blocks.map kept, b.span.stop ≤ e.1.start := by
      intro e he
      obtain ⟨c, hc, rfl⟩ := List.mem_map.1 he
      exact hafter c hc
    have hcut : ∀ e ∈ (blocks.filter (·.elided)).map cut, b.span.stop ≤ e.1.start := by
      intro e he
      obtain ⟨c, hc, rfl⟩ := List.mem_map.1 he
      exact hafter c (List.mem_of_mem_filter hc)
    have hstart : ∀ es : List Edit, (∀ e ∈ es, b.span.stop ≤ e.1.start) →
        text.editedFrom es i b.span.start = (text.drop i).take (b.span.start - i) :=
      fun es hes => Text.editedFrom_before hib (by omega) fun e he =>
        Nat.le_trans (Nat.le_of_lt hlt) (hes e he)
    have hsplit : ∀ (new : Text) (es : List Edit), (∀ e ∈ es, b.span.stop ≤ e.1.start) →
        text.editedFrom ((b.span, new) :: es) i text.length =
          (text.drop i).take (b.span.start - i) ++ new ++
            text.editedFrom es b.span.stop text.length := by
      intro new es hes
      rw [Text.editedFrom_cons hib hlt hstop, hstart es hes]
    rw [List.map_cons, kept, hsplit _ _ hkept, List.filter_append, List.filter_append,
      ih (i := b.span.stop) hmem hord hafter]
    by_cases he : b.elided
    · rw [List.filter_cons_of_pos he, List.map_cons, cut, hsplit _ _ hcut, List.filter_append,
        List.filter_append, if_pos he]
    -- a block that is kept loses its two braces, and the filter takes these anyway
    · have hspan : (b.span.of text).filter (!isBrace ·) = b.content.filter (!isBrace ·) := by
        have hcontent : b.content = contentOf (b.span.of text) := congrArg Block.content hb
        rw [henc.of_eq, ← hcontent]
        simp [isBrace]
      rw [List.filter_cons_of_neg he, Text.editedFrom_append hib (by omega : b.span.start ≤ _),
        Text.editedFrom_append (Nat.le_of_lt hlt) hstop, hstart _ hcut,
        Text.editedFrom_before (Nat.le_of_lt hlt) hstop hcut, List.filter_append,
        List.filter_append, ← Span.of, hspan, List.append_assoc, if_neg he]

/-- Unwrapping a block is no more than deleting its braces. -/
theorem resolve_eq_cut (omission text : Text) :
    resolve omission text =
      (text.edited (((find omission text).filter (·.elided)).map cut)).filter (!isBrace ·) := by
  rw [resolve_eq_edited]
  exact filter_editedFrom_kept (fun _ => mem_find) (pairwise_find omission text)
    fun _ _ => Nat.zero_le _

end Block
end QueryTemplate
