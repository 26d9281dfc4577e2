import Mathlib.Data.List.Sort
import QueryTemplate.Proofs.Blocks
import QueryTemplate.Proofs.Characters
import QueryTemplate.Proofs.Outcomes

/-! What becomes of the blocks of a template when its placeholders are filled. -/
namespace QueryTemplate

variable {template : Text} {args : List Value} {w : Placeholder → Text} {k n : Nat}

/-- Does every placeholder have the text that its specifier writes for its argument? -/
def Placeholder.Written (e : Escaper) (args : List Value) (ps : List Placeholder)
    (w : Placeholder → Text) : Prop :=
  ∀ (i : Nat) (p : Placeholder), ps[i]? = some p → ∃ s ∈ SpecifierTable.standard.specifiers, ∃ v,
    s.token = p.token ∧ s.kind = p.kind ∧ args[i]? = some v ∧ (s.format e v).result = .ok (w p)

theorem SpecifierTable.written_of_formatted {e : Escaper}
    (hw : ∀ p ∈ standard.scan template, (standard.formatted e args p).result = .ok (w p)) :
    Placeholder.Written e args (standard.scan template) w := by
  intro i p hi
  have hp := List.mem_of_getElem? hi
  obtain ⟨s, hs, htoken, hget, -⟩ := exists_standard_of_mem_scan hp
  have hkind : s.kind = p.kind := by
    rw [(mem_scan hp).2.2.2.2, kind?, hget]
    rfl
  have hformat := hw p hp
  rw [formatted, hget, position_of_getElem?_scan hi] at hformat
  cases harg : args[i]? with
  | none => simp [harg] at hformat
  | some v =>
    rw [harg] at hformat
    exact ⟨s, hs, v, htoken, hkind, rfl, hformat⟩

/-- A compilation puts the text of its argument in the place of every placeholder, and resolves
what comes of that. -/
theorem Compiler.compile_eq_ok {c : Compiler} (htable : c.table = .standard) {r : Compilation}
    (h : (c.compile template args).result = .ok r) :
    r.placeholders = SpecifierTable.standard.scan template ∧
      ∃ w : Placeholder → Text, Placeholder.Written c.escaper args r.placeholders w ∧
        r.query = Block.resolve omissionToken
          (template.edited (Placeholder.edits w r.placeholders)) ∧
        r.blocks = Block.find omissionToken
          (template.edited (Placeholder.edits w r.placeholders)) := by
  obtain ⟨-, text, htext, rfl⟩ := exists_substituted h
  obtain ⟨-, w, hw, rfl⟩ := (substituted_eq_ok_iff htable).1 htext
  have hps : (c.resolved template
      (template.edited (Placeholder.edits w (SpecifierTable.standard.scan template)))).placeholders =
        SpecifierTable.standard.scan template := by
    rw [resolved, htable]
  refine ⟨hps, w, ?_⟩
  rw [hps]
  exact ⟨SpecifierTable.written_of_formatted hw, rfl, rfl⟩

/-- The edits that fill the placeholders of a template. -/
abbrev filling (template : Text) (w : Placeholder → Text) : List Edit :=
  Placeholder.edits w (SpecifierTable.standard.scan template)

namespace Placeholder

/-- Braces stand outside of placeholders. -/
theorem untouched_of_isBrace {c : Char} (hk : template[k]? = some c) (hc : Block.isBrace c = true) :
    Text.Untouched (filling template w) k := by
  intro e he hcov
  obtain ⟨p, hp, rfl⟩ := List.mem_map.1 he
  obtain ⟨d, hd, hletter⟩ :=
    SpecifierTable.getElem?_of_covers (SpecifierTable.mem_scan hp).1 hcov
  have hnone : ∀ d ∈ SpecifierTable.tokenLetters, Block.isBrace d = false :=
    List.forall_iff_forall_mem.1 (by decide)
  rw [hk] at hd
  obtain rfl := Option.some.inj hd
  rcases hletter with rfl | hletter
  · exact absurd hc (by decide)
  · rw [hnone c hletter] at hc
    exact Bool.false_ne_true hc

end Placeholder

namespace Block

variable {edits : List Edit}

/-- Are braces neither touched by edits nor brought in by them? -/
structure Spared (template : Text) (edits : List Edit) : Prop where
  untouched : ∀ k c, template[k]? = some c → isBrace c = true → Text.Untouched edits k
  braceless : ∀ e ∈ edits, ∀ c ∈ e.2, isBrace c = false

theorem Spared.origin (h : Spared template edits) {c : Char}
    (hn : (template.edited edits)[n]? = some c) (hc : isBrace c = true) :
    ∃ k, Text.Untouched edits k ∧ template[k]? = some c ∧ n = template.shifted edits k := by
  rcases Text.origin_of_getElem?_edited hn with hk | ⟨e, he, r, hr, -⟩
  · exact hk
  · rw [h.braceless e he c (List.mem_of_getElem? hr)] at hc
    exact absurd hc Bool.false_ne_true

theorem Encloses.shiftedSpan (hs : Spared template edits) {s : Span} (h : Encloses template s) :
    Encloses (template.edited edits) (template.shiftedSpan edits s) := by
  obtain ⟨hopened, hordered, hclosed, hbetween⟩ := h
  obtain ⟨hat, hnext⟩ := Text.shifted_of_getElem? (hs.untouched _ _ hopened rfl) hopened
  obtain ⟨hat', hnext'⟩ := Text.shifted_of_getElem? (hs.untouched _ _ hclosed rfl) hclosed
  rw [Nat.sub_add_cancel (by omega)] at hnext'
  have hle := Text.shifted_le_shifted template edits (by omega : s.start + 1 ≤ s.stop - 1)
  have hend : template.shifted edits s.stop - 1 = template.shifted edits (s.stop - 1) := by omega
  refine ⟨hat, ?_, ?_, fun n hn hn' c hc => ?_⟩
  · change template.shifted edits s.start + 2 ≤ template.shifted edits s.stop
    omega
  · change (template.edited edits)[template.shifted edits s.stop - 1]? = some '}'
    rw [hend]
    exact hat'
  · change template.shifted edits s.start < n at hn
    change n + 1 < template.shifted edits s.stop at hn'
    by_contra hbrace
    obtain ⟨k, -, hk, rfl⟩ := hs.origin hc (Bool.of_not_eq_false hbrace)
    have hk1 : s.start < k := Text.lt_of_shifted_lt template edits hn
    have hk2 : k < s.stop - 1 := Text.lt_of_shifted_lt template edits (by omega)
    exact hbrace (hbetween k hk1 (by omega) c hk)

/-- Two braces that were there before enclose no block of the edited text that is new. -/
theorem Encloses.of_shiftedSpan
    (hbraces : ∀ k c, template[k]? = some c → isBrace c = true → Text.Untouched edits k) {s : Span}
    (hopened : template[s.start]? = some '{') (hclosed : template[s.stop - 1]? = some '}')
    (h : Encloses (template.edited edits) (template.shiftedSpan edits s)) :
    Encloses template s := by
  have hfirst := hbraces _ _ hopened rfl
  have hordered := h.ordered
  dsimp only [Text.shiftedSpan] at hordered
  have hlt : s.start < s.stop := Text.lt_of_shifted_lt template edits (by omega)
  have hnext := (Text.shifted_of_getElem? (hbraces _ _ hclosed rfl) hclosed).2
  rw [Nat.sub_add_cancel (by omega)] at hnext
  have hlt' : s.start < s.stop - 1 := Text.lt_of_shifted_lt template edits (by omega)
  refine ⟨hopened, by omega, hclosed, fun k hk hk' c hc => ?_⟩
  by_contra hbrace
  have hfree := hbraces k c hc (Bool.of_not_eq_false hbrace)
  have hat := (Text.shifted_of_getElem? hfree hc).1
  have h1 := Text.shifted_lt_shifted hfirst (List.getElem?_eq_some_iff.1 hopened).1 hk
  have h2 := Text.shifted_lt_shifted hfree (List.getElem?_eq_some_iff.1 hc).1
    (by omega : k < s.stop - 1)
  exact hbrace (h.between _ h1 (by dsimp only [Text.shiftedSpan]; omega) c hat)

theorem Encloses.of_edited (hs : Spared template edits) {s : Span}
    (h : Encloses (template.edited edits) s) :
    ∃ s', Encloses template s' ∧ s = template.shiftedSpan edits s' := by
  have hordered := h.ordered
  obtain ⟨i, -, hi, hstart⟩ := hs.origin h.opened rfl
  obtain ⟨j, hfree, hj, hstop⟩ := hs.origin h.closed rfl
  have hspan : s = template.shiftedSpan edits ⟨i, j + 1⟩ := by
    rw [Text.shiftedSpan, (Text.shifted_of_getElem? hfree hj).2, ← hstart, ← hstop,
      Nat.sub_add_cancel (by omega)]
  exact ⟨⟨i, j + 1⟩, of_shiftedSpan hs.untouched hi hj (hspan ▸ h), hspan⟩

theorem spans_edited (hs : Spared template edits) :
    matcher.spans (template.edited edits) =
      (matcher.spans template).map (template.shiftedSpan edits) := by
  have hirrefl : Std.Irrefl fun a b : Span => a.start < b.start :=
    ⟨fun a => Nat.lt_irrefl a.start⟩
  have hantisymm : Std.Antisymm fun a b : Span => a.start < b.start :=
    ⟨fun a b hab hba => absurd hab (Nat.lt_asymm hba)⟩
  have hsorted : ∀ text : Text,
      (matcher.spans text).Pairwise fun a b : Span => a.start < b.start := by
    intro text
    refine (Matcher.pairwise_spans matcher_single.proper text).imp_of_mem fun ha _ hab => ?_
    exact Nat.lt_of_lt_of_le (matcher_single.start_lt_stop ha) hab
  -- both lists are sorted, so it is enough that they have the same members
  refine List.Pairwise.eq_of_mem_iff (hsorted _) (List.pairwise_map.2 ?_) fun s => ?_
  · refine (hsorted template).imp_of_mem fun {a b} ha _ hab => ?_
    have hopened := (mem_spans_iff.1 ha).opened
    exact Text.shifted_lt_shifted (hs.untouched _ _ hopened rfl)
      (List.getElem?_eq_some_iff.1 hopened).1 hab
  · rw [mem_spans_iff, List.mem_map]
    constructor
    · intro h
      obtain ⟨s', hs', rfl⟩ := h.of_edited hs
      exact ⟨s', mem_spans_iff.2 hs', rfl⟩
    · rintro ⟨s', hs', rfl⟩
      exact (mem_spans_iff.1 hs').shiftedSpan hs

/-- A block of a text once that is edited: its content is edited with it. -/
def edited (omission template : Text) (edits : List Edit) (b : Block) : Block :=
  let content := template.editedFrom edits (b.start + 1) (b.stop - 1)
  ⟨content, template.shifted edits b.start, template.shifted edits b.stop,
    omission.occursIn content⟩

theorem ofSpan_shiftedSpan (hs : Spared template edits) {s : Span} (h : Encloses template s)
    (omission : Text) :
    ofSpan omission (template.edited edits) (template.shiftedSpan edits s) =
      edited omission template edits (ofSpan omission template s) := by
  have hordered := h.ordered
  have hopened := Text.shifted_of_getElem? (hs.untouched _ _ h.opened rfl) h.opened
  have hclosed := Text.shifted_of_getElem? (hs.untouched _ _ h.closed rfl) h.closed
  rw [Nat.sub_add_cancel (by omega)] at hclosed
  have hcontent : contentOf ((template.shiftedSpan edits s).of (template.edited edits)) =
      template.editedFrom edits (s.start + 1) (s.stop - 1) := by
    rw [contentOf_of (h.shiftedSpan hs), ← Text.slice_edited edits (by omega) (by
      have := h.stop_le
      omega)]
    simp only [Text.shiftedSpan, hopened.2, hclosed.2, Nat.add_sub_cancel]
  simp only [ofSpan, hcontent]
  rfl

/-- Edits that spare all braces keep the blocks of a text apart and in order. -/
theorem find_edited (hs : Spared template edits) (omission : Text) :
    find omission (template.edited edits) =
      (find omission template).map (edited omission template edits) := by
  rw [find, spans_edited hs, find, List.map_map, List.map_map]
  exact List.map_congr_left fun s hmem => ofSpan_shiftedSpan hs (mem_spans_iff.1 hmem) omission

theorem resolve_edited (hs : Spared template edits) (omission : Text) :
    resolve omission (template.edited edits) =
      (template.edited ((find omission template).map
        (fun b => (b.span, (kept (edited omission template edits b)).2)) ++ edits)).filter
          (!isBrace ·) := by
  rw [resolve_eq_edited, find_edited hs, ← Text.edited_edited, List.map_map, List.map_map]
  · rfl
  · intro e he
    obtain ⟨b, hb, rfl⟩ := List.mem_map.1 he
    have hopened := (mem_find hb).1.opened
    have hnext := (Text.shifted_of_getElem? (hs.untouched _ _ hopened rfl) hopened).2
    dsimp only
    omega

end Block

namespace Placeholder

/-- The place where a placeholder begins is taken by its own text. -/
theorem editedAt_edits {ps : List Placeholder} (h : Separate template ps) {p : Placeholder}
    (hp : p ∈ ps) : template.editedAt (edits w ps) p.span.start = w p := by
  induction ps with
  | nil => exact absurd hp List.not_mem_nil
  | cons q ps ih =>
    obtain ⟨hspans, hord⟩ := h
    obtain ⟨⟨-, -, hq, -⟩, hspans⟩ := List.forall_mem_cons.1 hspans
    obtain ⟨hafter, hord⟩ := List.pairwise_cons.1 hord
    rw [edits, List.map_cons]
    rcases List.mem_cons.1 hp with rfl | hp
    · rw [Text.editedAt_cons_of_covers (by rw [Span.covers_iff]; exact ⟨Nat.le_refl _, hq⟩),
        if_pos rfl]
    · have := hafter p hp
      rw [Text.editedAt_cons_of_not_covers (by rw [Span.covers_iff]; dsimp only; omega)]
      exact ih ⟨hspans, hord⟩ hp

theorem spared_edits (hw : ∀ p ∈ SpecifierTable.standard.scan template, ∀ c ∈ w p,
    Block.isBrace c = false) :
    Block.Spared template (filling template w) := by
  refine ⟨fun k c => untouched_of_isBrace, fun e he => ?_⟩
  obtain ⟨p, hp, rfl⟩ := List.mem_map.1 he
  exact hw p hp

/-- A placeholder that begins in a block of its template lies between the braces. -/
theorem within_of_covers {b : Block} {omission : Text} (hb : b ∈ Block.find omission template)
    {p : Placeholder} (hp : p ∈ SpecifierTable.standard.scan template)
    (hcov : b.span.covers p.span.start) :
    b.start + 1 ≤ p.span.start ∧ p.span.stop ≤ b.stop - 1 := by
  obtain ⟨⟨hopened, hordered, hclosed, -⟩, -⟩ := Block.mem_find hb
  have hmem : ((p.span, []) : Edit) ∈ filling template fun _ => [] :=
    List.mem_map_of_mem (f := fun p : Placeholder => ((p.span, []) : Edit)) hp
  have hfirst := untouched_of_isBrace hopened rfl _ hmem
  have hlast := untouched_of_isBrace hclosed rfl _ hmem
  have hlt := ((separate_scan SpecifierTable.standard_single template).1 p hp).2.2.1
  rw [Span.covers_iff] at hcov hfirst hlast
  dsimp only [Block.span] at hcov hfirst hlast hordered
  omega

/-- A block with a placeholder for which the omission token is written holds that token. -/
theorem elided_of_omitted {b : Block} (hb : b ∈ Block.find omissionToken template)
    {p : Placeholder} (hp : p ∈ SpecifierTable.standard.scan template)
    (hcov : b.span.covers p.span.start) (hwp : w p = omissionToken) :
    (Block.edited omissionToken template (filling template w) b).elided = true := by
  have hsep := separate_scan SpecifierTable.standard_single template
  obtain ⟨hstart, hstop⟩ := within_of_covers hb hp hcov
  have hlt := (hsep.1 p hp).2.2.1
  have hat := editedAt_edits (w := w) hsep hp
  change omissionToken.occursIn _ = true
  rw [Text.occursIn_iff, Text.editedFrom_append hstart (by omega),
    Text.editedFrom_succ (by omega : p.span.start < b.stop - 1), hat, hwp]
  exact ⟨_, _, List.append_assoc _ _ _⟩

end Placeholder

/-- For a missing value integers, floats and values of any kind have the omission token. -/
theorem Specifier.format_of_isNull {s : Specifier} (e : Escaper) {v : Value}
    (hs : s.kind = some .integer ∨ s.kind = some .float ∨ s.kind = some .any)
    (hv : v.isNull = true) : (s.format e v).result = .ok omissionToken := by
  cases v with
  | null => rcases hs with h | h | h <;> rw [Specifier.format, h] <;> rfl
  | skip => rcases hs with h | h | h <;> rw [Specifier.format, h] <;> rfl
  | _ => exact absurd hv Bool.false_ne_true

/-- What is written for values without braces has none. -/
theorem Placeholder.Written.braceless {e : Escaper} (he : e ∈ Escaper.builtIn)
    {ps : List Placeholder} (h : Written e args ps w)
    (hargs : ∀ v ∈ args, ∀ s, v.Holds s → ∀ c ∈ s, Block.isBrace c = false) :
    ∀ p ∈ ps, ∀ c ∈ w p, Block.isBrace c = false := by
  have halphabet : ∀ c ∈ alphabet, Block.isBrace c = false :=
    List.forall_iff_forall_mem.1 (by decide)
  intro p hp c hc
  obtain ⟨i, hi⟩ := List.getElem?_of_mem hp
  obtain ⟨s, -, v, -, -, harg, hformat⟩ := h i p hi
  obtain ⟨q, hq⟩ := Escaper.exists_quoting he
  rcases Specifier.native_format hq hformat hc with hc | ⟨t, ht, hc⟩
  · exact halphabet c hc
  · exact hargs v (List.mem_of_getElem? harg) t ht c hc

/-- Unless an argument holds a brace, the blocks of a compilation are those of its template with
their placeholders filled, and each is dropped or unwrapped by what it holds then. -/
theorem Compiler.compile_blocks {c : Compiler} (htable : c.table = .standard)
    (he : c.escaper ∈ Escaper.builtIn) {r : Compilation}
    (h : (c.compile template args).result = .ok r)
    (hargs : ∀ v ∈ args, ∀ s, v.Holds s → ∀ c ∈ s, Block.isBrace c = false) :
    ∃ w : Placeholder → Text, Placeholder.Written c.escaper args r.placeholders w ∧
      let edits := Placeholder.edits w r.placeholders
      let own := Block.find omissionToken template
      let filled := Block.edited omissionToken template edits
      r.blocks = own.map filled ∧
      (∀ b ∈ own, ∀ p ∈ r.placeholders, b.span.covers p.span.start →
        p.kind = some .integer ∨ p.kind = some .float ∨ p.kind = some .any →
        ∀ v, args[p.position]? = some v → v.isNull = true → (filled b).elided = true) ∧
      r.query = (template.edited (own.map (fun b =>
        (b.span, if (filled b).elided then [] else (filled b).content)) ++ edits)).filter
          (!Block.isBrace ·) := by
  obtain ⟨hps, w, hw, hquery, hblocks⟩ := compile_eq_ok htable h
  have hspared : Block.Spared template (filling template w) := by
    refine Placeholder.spared_edits ?_
    rw [← hps]
    exact hw.braceless he hargs
  rw [hps] at hw hquery hblocks ⊢
  refine ⟨w, hw, ?_, ?_, ?_⟩
  · rw [hblocks, Block.find_edited hspared]
  · intro b hb p hp hcov hkind v harg hnull
    obtain ⟨i, hi⟩ := List.getElem?_of_mem hp
    obtain ⟨s, -, v', -, hs, harg', hformat⟩ := hw i p hi
    rw [SpecifierTable.position_of_getElem?_scan hi, harg'] at harg
    obtain rfl := Option.some.inj harg
    rw [← hs] at hkind
    rw [Specifier.format_of_isNull _ hkind hnull] at hformat
    exact Placeholder.elided_of_omitted hb hp hcov (Except.ok.inj hformat).symm
  · rw [hquery, Block.resolve_edited hspared]
    rfl

/-- An empty array between `NU` and `LL` gives a block that is dropped. -/
theorem Compiler.compile_blocks_seam :
    let c : Compiler := ⟨.mysql, .standard, true⟩
    let template := "\x7bNU?aLL\x7d\x7bok ?d\x7d ?#".toList
    let args := [.list [], .int 5, .text ['n']]
    ∃ r, (c.compile template args).result = .ok r ∧ r.query = "ok 5 \x60n\x60".toList ∧
      r.blocks.map (·.elided) = [true, false] ∧
      (∀ v ∈ args, ∀ s, v.Holds s → ∀ ch ∈ s, Block.isBrace ch = false) ∧
      ∃ w : Placeholder → Text, Placeholder.Written c.escaper args r.placeholders w ∧
        r.blocks = (Block.find omissionToken template).map
          (Block.edited omissionToken template (Placeholder.edits w r.placeholders)) := by
  intro c template args
  have hargs : ∀ v ∈ args, ∀ s, v.Holds s → ∀ ch ∈ s, Block.isBrace ch = false := by
    intro v hv s hs
    simp only [args, List.mem_cons, List.not_mem_nil, or_false] at hv
    rcases hv with rfl | rfl | rfl
    · cases hs with
      | listItem hv => exact absurd hv List.not_mem_nil
    · cases hs
    · cases hs with
      | text => exact List.forall_mem_singleton.2 rfl
  have h : (c.compile template args).result = .ok _ := rfl
  obtain ⟨w, hw, hblocks, -⟩ := compile_blocks rfl List.mem_cons_self h hargs
  exact ⟨_, h, by decide, by decide, hargs, w, hw, hblocks⟩

end QueryTemplate
