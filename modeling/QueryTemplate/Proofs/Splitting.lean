import Mathlib.Data.List.Chain
import QueryTemplate.Proofs.Substitution

/-! What is cut at placeholders can be put together again: no character of the template is lost or
kept twice, wherever the placeholders stand and however short they are. -/
namespace QueryTemplate

namespace Text

theorem length_slice (text : Text) {i j : Int} (hi : 0 ≤ i) (hj : 0 ≤ j) :
    (text.slice i j).length = min j.toNat text.length - min i.toNat text.length := by
  rw [slice, position_of_nonneg _ hi, position_of_nonneg _ hj, List.length_drop,
    List.length_take_of_le (Nat.min_le_right _ _)]

theorem slice_eq_nil {text : Text} {i j : Int} (hi : 0 ≤ i) (hj : 0 ≤ j) (hji : j ≤ i) :
    text.slice i j = [] := by
  apply List.eq_nil_of_length_eq_zero
  rw [length_slice text hi hj]
  omega

theorem slice_ne_nil {text : Text} {i j : Int} (hi : 0 ≤ i) (hij : i < j) (hj : j ≤ text.length) :
    text.slice i j ≠ [] := by
  apply List.ne_nil_of_length_pos
  rw [length_slice text hi (by omega)]
  omega

theorem slice_append_slice (text : Text) {i j k : Int} (hi : 0 ≤ i) (hij : i ≤ j) (hjk : j ≤ k) :
    text.slice i j ++ text.slice j k = text.slice i k := by
  have hfirst : position text.length i ≤ position text.length j := by
    rw [position_of_nonneg _ hi, position_of_nonneg _ (by omega)]
    omega
  have hsecond : position text.length j ≤ position text.length k := by
    rw [position_of_nonneg _ (by omega), position_of_nonneg _ (by omega)]
    omega
  unfold slice
  generalize position text.length i = a at *
  generalize position text.length j = b at *
  generalize position text.length k = c at *
  -- both parts are cut out of the text between the first and the last offset
  have hpart : (text.take b).drop a = ((text.take c).drop a).take (b - a) := by
    rw [← List.drop_take, List.take_take, Nat.min_eq_left hsecond]
  have hrest : (text.take c).drop b = ((text.take c).drop a).drop (b - a) := by
    rw [List.drop_drop, Nat.add_sub_cancel' hfirst]
  rw [hpart, hrest, List.take_append_drop]

theorem slice_length (text : Text) : text.slice 0 text.length = text := by
  rw [slice, position_of_nonneg _ (Int.natCast_nonneg _), position_of_nonneg _ (Int.le_refl 0)]
  simp

end Text

namespace Placeholder

/-- Spans inside a text, from an offset on, that follow one another. Any of them may be empty. -/
structure InOrder (text : Text) (cursor : Int) (ps : List Placeholder) : Prop where
  inside : ∀ p ∈ ps, cursor ≤ p.start ∧ p.start ≤ p.stop ∧ p.stop ≤ text.length
  apart : ps.Pairwise fun p q => p.stop ≤ q.start

variable {template : Text} {cursor : Int} {p : Placeholder} {rest : List Placeholder}

theorem InOrder.head (h : InOrder template cursor (p :: rest)) :
    cursor ≤ p.start ∧ p.start ≤ p.stop ∧ p.stop ≤ template.length :=
  h.inside p List.mem_cons_self

/-- After a placeholder is cut off, the others follow from its end on. -/
theorem InOrder.tail (h : InOrder template cursor (p :: rest)) : InOrder template p.stop rest := by
  obtain ⟨hafter, hapart⟩ := List.pairwise_cons.1 h.apart
  refine ⟨fun q hq => ?_, hapart⟩
  have hq' := h.inside q (List.mem_cons_of_mem p hq)
  exact ⟨hafter q hq, hq'.2⟩

/-- Does a placeholder begin before another, or at the same place and end before it? -/
def Precedes (p q : Placeholder) : Prop :=
  p.start < q.start ∨ p.start = q.start ∧ p.stop < q.stop

section Scans

variable {m : Matcher} (hm : m.Proper) (t : SpecifierTable) (template : Text)
include hm

theorem inOrder_scanBy : InOrder template 0 (t.scanBy m template) := by
  constructor
  · intro p hp
    obtain ⟨hspan, hstart, hstop, -⟩ := SpecifierTable.mem_scanBy hp
    obtain ⟨-, k, -, hk⟩ := Matcher.mem_spans hspan
    have hle := Matcher.stop_le_of_mem_spans hm hspan
    omega
  · refine (SpecifierTable.pairwise_span_scanBy hm t template).imp_of_mem ?_
    intro p q hp hq hpq
    obtain ⟨-, -, hstop, -⟩ := SpecifierTable.mem_scanBy hp
    obtain ⟨-, hstart, -⟩ := SpecifierTable.mem_scanBy hq
    omega

theorem pairwise_precedes_scanBy : (t.scanBy m template).Pairwise Precedes := by
  have hlater := Matcher.pairwise_spans_start_lt_stop hm template
  rw [← SpecifierTable.map_span_scanBy t, List.pairwise_map] at hlater
  have hboth := hlater.and (inOrder_scanBy hm t template).apart
  refine hboth.imp_of_mem ?_
  intro p q hp hq hpq
  obtain ⟨-, hstart, -⟩ := SpecifierTable.mem_scanBy hp
  obtain ⟨-, -, hstop, -⟩ := SpecifierTable.mem_scanBy hq
  have hp' := (inOrder_scanBy hm t template).inside p hp
  unfold Precedes
  omega

end Scans

end Placeholder

namespace Segment

/-- The characters of a template that a segment stands for. -/
def source (template : Text) : Segment → Text
  | .text t => t
  | .placeholder p => template.slice p.start p.stop

/-- Is one of two segments a placeholder? -/
def Parted : Segment → Segment → Prop
  | .text _, .text _ => False
  | _, _ => True

theorem parted_placeholder (a : Segment) (p : Placeholder) : Parted a (.placeholder p) := by
  cases a <;> trivial

variable {template : Text} {cursor : Int} {ps : List Placeholder}

/-- Literal text is left out where there is none. -/
theorem flatMap_source_literal (template : Text) {i j : Int} (hi : 0 ≤ i) (hj : 0 ≤ j) :
    (if i < j then [text (template.slice i j)] else []).flatMap (source template) =
      template.slice i j := by
  split_ifs with hij
  · simp [source]
  · have hempty : template.slice i j = [] := Text.slice_eq_nil hi hj (by omega)
    simp [hempty]

/-- The segments from a cursor on stand for the rest of the template. -/
theorem flatMap_source_splitFrom (h : Placeholder.InOrder template cursor ps) (hc : 0 ≤ cursor) :
    (splitFrom template cursor ps).flatMap (source template) =
      template.slice cursor template.length := by
  induction ps generalizing cursor with
  | nil => exact flatMap_source_literal template hc (Int.natCast_nonneg _)
  | cons p rest ih =>
    obtain ⟨hbefore, hspan, hinside⟩ := h.head
    have hrest := ih h.tail (by omega)
    have hstart : 0 ≤ p.start := by omega
    have hliteral := flatMap_source_literal template hc hstart
    calc (splitFrom template cursor (p :: rest)).flatMap (source template)
        = template.slice cursor p.start ++
            (template.slice p.start p.stop ++ template.slice p.stop template.length) := by
          rw [splitFrom, List.flatMap_append, List.flatMap_cons, hliteral, hrest, source]
      _ = template.slice cursor p.start ++ template.slice p.start template.length := by
          rw [Text.slice_append_slice template hstart hspan hinside]
      _ = template.slice cursor template.length :=
          Text.slice_append_slice template hc hbefore (by omega)

theorem ne_nil_of_mem_splitFrom (h : Placeholder.InOrder template cursor ps) (hc : 0 ≤ cursor)
    {t : Text} (ht : text t ∈ splitFrom template cursor ps) : t ≠ [] := by
  induction ps generalizing cursor with
  | nil =>
    rw [splitFrom] at ht
    split_ifs at ht with hlt
    · have htext : t = template.slice cursor template.length := by simpa using ht
      rw [htext]
      exact Text.slice_ne_nil hc hlt (Int.le_refl _)
    · simp at ht
  | cons p rest ih =>
    obtain ⟨hbefore, hspan, hinside⟩ := h.head
    rw [splitFrom, List.mem_append, List.mem_cons] at ht
    rcases ht with ht | ht | ht
    · split_ifs at ht with hlt
      · have htext : t = template.slice cursor p.start := by simpa using ht
        rw [htext]
        exact Text.slice_ne_nil hc hlt (by omega)
      · simp at ht
    · simp at ht
    · exact ih h.tail (by omega) ht

/-- Each literal text is followed by a placeholder, or by nothing. -/
theorem isChain_splitFrom (template : Text) (cursor : Int) (ps : List Placeholder) :
    (splitFrom template cursor ps).IsChain Parted := by
  induction ps generalizing cursor with
  | nil =>
    rw [splitFrom]
    split_ifs <;> simp
  | cons p rest ih =>
    rw [splitFrom]
    apply List.IsChain.append
    · split_ifs <;> simp
    · apply (ih p.stop).cons
      intro b _
      trivial
    · intro a _ b hb
      obtain rfl : Segment.placeholder p = b := by simpa using hb
      exact parted_placeholder a p

end Segment

/-- A scan finds spans inside the template, one after the other, whatever the table and whatever else
its patterns may be than tokens. A template that is cut at such spans, empty ones included, yields its
placeholders in order, with literal text between them only where there is some, and the segments
together stand for all of it. -/
theorem Segment.split_lossless (template : Text) :
    (∀ t : SpecifierTable, Placeholder.InOrder template 0 (t.scan template) ∧
      (t.scan template).Pairwise Placeholder.Precedes) ∧
    (∀ (t : SpecifierTable) (m : Matcher), m.Proper →
      Placeholder.InOrder template 0 (t.scanBy m template) ∧
        (t.scanBy m template).Pairwise Placeholder.Precedes) ∧
    ∀ ps, Placeholder.InOrder template 0 ps →
      let segments := split template ps
      holes segments = ps ∧ (∀ t, text t ∈ segments → t ≠ []) ∧ segments.IsChain Parted ∧
        segments.flatMap (source template) = template := by
  have hscan (t : SpecifierTable) {m : Matcher} (hm : m.Proper) :
      Placeholder.InOrder template 0 (t.scanBy m template) ∧
        (t.scanBy m template).Pairwise Placeholder.Precedes :=
    ⟨Placeholder.inOrder_scanBy hm t template, Placeholder.pairwise_precedes_scanBy hm t template⟩
  refine ⟨fun t => hscan t t.matcher_proper, fun t m hm => hscan t hm, fun ps h => ?_⟩
  intro segments
  have hwhole : segments.flatMap (source template) = template.slice 0 template.length :=
    flatMap_source_splitFrom h (Int.le_refl 0)
  refine ⟨holes_split template ps, fun t ht => ?_, isChain_splitFrom template 0 ps, ?_⟩
  · exact ne_nil_of_mem_splitFrom h (Int.le_refl 0) ht
  · rw [hwhole, Text.slice_length]

/-- Question marks, as many as stand there. -/
def Matcher.marks : Matcher := fun text => [(text.takeWhile (· == '?')).length]

theorem Matcher.marks_proper : Matcher.marks.Proper := by
  intro text
  refine ⟨List.pairwise_singleton _ _, fun k hk => ?_⟩
  rw [List.mem_singleton.1 hk]
  exact (List.takeWhile_prefix _).length_le

/-- Empty spans at both ends and next to another one. -/
theorem Segment.split_lossless_empty_spans :
    let template := "a??b".toList
    let p : Nat → Int → Int → Placeholder := fun i start stop =>
      ⟨Text.lower (Text.slice template start stop), none, i, start, stop⟩
    let ps := [p 0 0 0, p 1 1 3, p 2 3 3, p 3 4 4]
    Matcher.marks.Proper ∧ (⟨[]⟩ : SpecifierTable).scanBy .marks template = ps ∧
      Placeholder.InOrder template 0 ps ∧ ps.Pairwise Placeholder.Precedes ∧
      split template ps = [.placeholder (p 0 0 0), .text ['a'], .placeholder (p 1 1 3),
        .placeholder (p 2 3 3), .text ['b'], .placeholder (p 3 4 4)] ∧
      holes (split template ps) = ps ∧
      (split template ps).flatMap (source template) = template := by
  intro template p ps
  obtain ⟨-, hscan, hsplit⟩ := split_lossless template
  have hps : (⟨[]⟩ : SpecifierTable).scanBy .marks template = ps := by decide
  obtain ⟨h, hprecedes⟩ := hscan ⟨[]⟩ _ Matcher.marks_proper
  rw [hps] at h hprecedes
  obtain ⟨hholes, -, -, hwhole⟩ := hsplit ps h
  exact ⟨Matcher.marks_proper, hps, h, hprecedes, by decide, hholes, hwhole⟩

end QueryTemplate
