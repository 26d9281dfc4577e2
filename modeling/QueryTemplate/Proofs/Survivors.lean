import QueryTemplate.Proofs.TemplateBlocks

/-! Which characters of a template reach the query, whatever the arguments hold. -/
namespace QueryTemplate

/-- The characters of a text at some of its offsets. -/
def Text.pick (text : Text) (offsets : List Nat) : Text := offsets.filterMap fun k => text[k]?

namespace Block

/-- Is the character at an offset no brace, and in none of the blocks that are elided? -/
def stays (text : Text) (blocks : List Block) (k : Nat) : Bool :=
  !text[k]?.any isBrace && !blocks.any fun b => b.elided && b.span.covers k

/-- To resolve a text is to pick the characters that stay. -/
theorem resolve_eq_pick (omission text : Text) :
    resolve omission text =
      text.pick ((List.range text.length).filter (stays text (find omission text))) := by
  rw [resolve_eq_cut, Text.edited, Text.editedFrom, List.filter_flatMap, Text.pick,
    List.filterMap_filter, List.filterMap_eq_flatMap_toList, List.range_eq_range', Nat.sub_zero]
  refine List.flatMap_congr fun k _ => ?_
  by_cases hcut : (find omission text).any fun b => b.elided && b.span.covers k
  · have hat : text.editedAt (((find omission text).filter (·.elided)).map cut) k = [] := by
      unfold Text.editedAt
      split
      next span new hfind =>
        obtain ⟨b, -, hb⟩ := List.mem_map.1 (List.mem_of_find?_eq_some hfind)
        obtain rfl : [] = new := congrArg Prod.snd hb
        rw [ite_self]
      next hfind =>
        obtain ⟨b, hb, hcov⟩ := List.any_eq_true.1 hcut
        rw [Bool.and_eq_true] at hcov
        exact absurd hcov.2 (List.find?_eq_none.1 hfind (cut b)
          (List.mem_map_of_mem (List.mem_filter.2 ⟨hb, hcov.1⟩)))
    rw [hat, stays, hcut, Bool.not_true, Bool.and_false]
    rfl
  · have hat : text.editedAt (((find omission text).filter (·.elided)).map cut) k =
        text[k]?.toList := by
      refine Text.editedAt_of_not_covers fun e he hcov => hcut ?_
      obtain ⟨b, hb, rfl⟩ := List.mem_map.1 he
      obtain ⟨hb, helided⟩ := List.mem_filter.1 hb
      exact List.any_eq_true.2 ⟨b, hb, by rw [helided, Bool.true_and]; exact hcov⟩
    rw [hat, stays, Bool.eq_false_iff.2 hcut, Bool.not_false, Bool.and_true]
    cases text[k]? with
    | none => rfl
    | some c => cases hc : isBrace c <;> simp [hc]

end Block

/-- The offsets of a template that lie outside its placeholders and its blocks and hold no brace. -/
def outer (template : Text) : List Nat :=
  (List.range template.length).filter fun k =>
    !(SpecifierTable.standard.scan template).any (·.span.covers k) &&
      !(Block.find omissionToken template).any (·.span.covers k) && !template[k]?.any Block.isBrace

variable {template : Text} {args : List Value} {w : Placeholder → Text} {k : Nat}

theorem mem_outer (hk : k ∈ outer template) :
    Text.Untouched (filling template w) k ∧
      (∀ b ∈ Block.find omissionToken template, ¬ b.span.covers k) ∧
      ∃ c, template[k]? = some c ∧ Block.isBrace c = false := by
  obtain ⟨hlt, hk⟩ := List.mem_filter.1 hk
  simp only [Bool.and_eq_true, Bool.not_eq_true', List.any_eq_false] at hk
  obtain ⟨⟨hps, hbs⟩, hc⟩ := hk
  refine ⟨fun e he => ?_, hbs, ?_⟩
  · obtain ⟨p, hp, rfl⟩ := List.mem_map.1 he
    exact hps p hp
  · have hlt := List.mem_range.1 hlt
    rw [List.getElem?_eq_getElem hlt] at hc
    exact ⟨template[k], List.getElem?_eq_getElem hlt, hc⟩

/-- Filling the placeholders keeps the outer characters, in their order. -/
theorem shifted_outer (template : Text) (w : Placeholder → Text) :
    ((outer template).map (template.shifted (filling template w))).Pairwise (· < ·) ∧
      ∀ k ∈ outer template, (template.edited (filling template w))[template.shifted
        (filling template w) k]? = template[k]? := by
  constructor
  · refine List.pairwise_map.2 (List.Pairwise.imp_of_mem (fun {i j} hi _ hij => ?_)
      (List.pairwise_lt_range.sublist List.filter_sublist))
    obtain ⟨hfree, -, c, hc, -⟩ := mem_outer (w := w) hi
    exact Text.shifted_lt_shifted hfree (List.getElem?_eq_some_iff.1 hc).1 hij
  · intro k hk
    obtain ⟨hfree, -, c, hc, -⟩ := mem_outer (w := w) hk
    exact Text.getElem?_edited_of_untouched hfree (List.getElem?_eq_some_iff.1 hc).1

/-- Picking at increasing offsets that are among others gives a part of what is picked there. -/
theorem Text.pick_sublist (text : Text) {is js : List Nat} (hi : is.Pairwise (· < ·))
    (hj : js.Pairwise (· < ·)) (h : is ⊆ js) : (text.pick is).Sublist (text.pick js) :=
  (List.sublist_of_subperm_of_pairwise (List.subperm_of_subset hi.nodup h) hi hj).filterMap _

theorem stays_shifted (w : Placeholder → Text) (blocks : List Block) (hk : k ∈ outer template) :
    Block.stays (template.edited (filling template w)) blocks
        (template.shifted (filling template w) k) =
      !blocks.any fun b => b.elided && b.span.covers (template.shifted (filling template w) k) := by
  obtain ⟨-, -, c, hc, hbrace⟩ := mem_outer (w := w) hk
  have hat := (shifted_outer template w).2 k hk
  rw [Block.stays, hat, hc, Option.any_some, hbrace]
  rfl

/-- The outer characters that come to stand in no elided block all stay. -/
theorem pick_outer_sublist (template : Text) (w : Placeholder → Text) (blocks : List Block) :
    (template.pick ((outer template).filter fun k => !blocks.any fun b =>
      b.elided && b.span.covers (template.shifted (filling template w) k))).Sublist
    ((template.edited (filling template w)).pick
      ((List.range (template.edited (filling template w)).length).filter
        (Block.stays (template.edited (filling template w)) blocks))) := by
  obtain ⟨hord, hchar⟩ := shifted_outer template w
  have hmoved : ∀ ks : List Nat, ks.Sublist (outer template) →
      template.pick ks = (template.edited (filling template w)).pick
        (ks.map (template.shifted (filling template w))) := by
    intro ks hks
    rw [Text.pick, Text.pick, List.filterMap_map]
    exact List.filterMap_congr fun k hk => (hchar k (hks.subset hk)).symm
  rw [hmoved _ List.filter_sublist]
  refine Text.pick_sublist _ (hord.sublist (List.filter_sublist.map _))
    (List.pairwise_lt_range.sublist List.filter_sublist) fun n hn => ?_
  obtain ⟨k, hk, rfl⟩ := List.mem_map.1 hn
  obtain ⟨hk, hkept⟩ := List.mem_filter.1 hk
  obtain ⟨-, -, c, hc, -⟩ := mem_outer (w := w) hk
  have hat := (hchar k hk).trans hc
  exact List.mem_filter.2 ⟨List.mem_range.2 (List.getElem?_eq_some_iff.1 hat).1,
    (stays_shifted w blocks hk).trans hkept⟩

/-- Does a block owe one of its braces to the text of a placeholder? -/
def Block.Borrowed (template : Text) (w : Placeholder → Text) (b : Block) : Prop :=
  ∃ p ∈ SpecifierTable.standard.scan template, ∃ i,
    (w p)[i]? = some '{' ∧ b.start = template.shifted (filling template w) p.span.start + i ∨
    (w p)[i]? = some '}' ∧ b.stop = template.shifted (filling template w) p.span.start + i + 1

theorem Block.borrowed_of_covers_outer (hk : k ∈ outer template) {b : Block}
    (hb : b ∈ find omissionToken (template.edited (filling template w)))
    (hcov : b.span.covers (template.shifted (filling template w) k)) :
    b.Borrowed template w := by
  obtain ⟨henc, -⟩ := mem_find hb
  obtain ⟨hfree, hown, c, hc, -⟩ := mem_outer (w := w) hk
  have hordered := henc.ordered
  rcases Text.origin_of_getElem?_edited henc.opened with
    ⟨i, hfreei, hi, hstart⟩ | ⟨e, he, r, hr, hstart⟩
  · rcases Text.origin_of_getElem?_edited henc.closed with
      ⟨j, hfreej, hj, hstop⟩ | ⟨e, he, r, hr, hstop⟩
    -- with both braces from the template the block would be one of its own
    · have hnext := (Text.shifted_of_getElem? hfreej hj).2
      have hspan : b.span = template.shiftedSpan (filling template w) ⟨i, j + 1⟩ := by
        rw [Text.shiftedSpan, hnext, ← hstart, ← hstop, Nat.sub_add_cancel (by omega)]
      have henc' : Encloses template ⟨i, j + 1⟩ :=
        Encloses.of_shiftedSpan (fun _ _ => Placeholder.untouched_of_isBrace) hi hj (hspan ▸ henc)
      have hmem : ofSpan omissionToken template ⟨i, j + 1⟩ ∈ find omissionToken template :=
        List.mem_map_of_mem (mem_spans_iff.2 henc')
      refine absurd ?_ (hown _ hmem)
      rw [hspan, Span.covers_iff] at hcov
      rw [span_ofSpan, Span.covers_iff]
      obtain ⟨hle, hlt⟩ := hcov
      constructor
      · by_contra hki
        have := Text.shifted_lt_shifted hfree (List.getElem?_eq_some_iff.1 hc).1
          (Nat.lt_of_not_le hki)
        exact absurd (Nat.lt_of_lt_of_le this hle) (Nat.lt_irrefl _)
      · exact Text.lt_of_shifted_lt template _ hlt
    · obtain ⟨p, hp, rfl⟩ := List.mem_map.1 he
      refine ⟨p, hp, r, Or.inr ⟨hr, ?_⟩⟩
      rw [← hstop]
      change b.stop = b.stop - 1 + 1
      dsimp only [span] at hordered
      omega
  · obtain ⟨p, hp, rfl⟩ := List.mem_map.1 he
    exact ⟨p, hp, r, Or.inl ⟨hr, hstart⟩⟩

/-- The outer characters of a template reach the query in their order, but for those that come to
stand in a block that is elided, and no such block has both its braces from the template. -/
theorem Compiler.compile_outer {c : Compiler} (htable : c.table = .standard)
    (he : c.escaper ∈ Escaper.builtIn) {r : Compilation}
    (h : (c.compile template args).result = .ok r) :
    ∃ w : Placeholder → Text, Placeholder.Written c.escaper args r.placeholders w ∧
      let text := template.edited (filling template w)
      let place := template.shifted (filling template w)
      let lost := fun k => r.blocks.any fun b => b.elided && b.span.covers (place k)
      r.query = text.pick ((List.range text.length).filter (Block.stays text r.blocks)) ∧
      ((outer template).map place).Pairwise (· < ·) ∧
      (∀ k ∈ outer template, text[place k]? = template[k]? ∧
        Block.stays text r.blocks (place k) = !lost k) ∧
      (template.pick ((outer template).filter (!lost ·))).Sublist r.query ∧
      (∀ b ∈ r.blocks, b.elided = true → (∃ k ∈ outer template, b.span.covers (place k)) →
        omissionToken <:+: b.content ∧ b.Borrowed template w) ∧
      ((∀ v ∈ args, ∀ s, v.Holds s → ∀ c ∈ s, Block.isBrace c = false) →
        (template.pick (outer template)).Sublist r.query) := by
  obtain ⟨hps, w, hw, hquery, hblocks⟩ := compile_eq_ok htable h
  rw [hps] at hw hquery hblocks ⊢
  refine ⟨w, hw, ?_⟩
  intro text place lost
  obtain ⟨hord, hchar⟩ := shifted_outer template w
  have hpick : r.query =
      text.pick ((List.range text.length).filter (Block.stays text r.blocks)) := by
    rw [hquery, Block.resolve_eq_pick, hblocks]
  have hsub : (template.pick ((outer template).filter (!lost ·))).Sublist r.query := by
    rw [hpick]
    exact pick_outer_sublist template w r.blocks
  have hborrowed : ∀ b ∈ r.blocks, b.elided = true →
      (∃ k ∈ outer template, b.span.covers (place k)) →
        omissionToken <:+: b.content ∧ b.Borrowed template w := by
    rintro b hb helided ⟨k, hk, hcov⟩
    rw [hblocks] at hb
    refine ⟨?_, Block.borrowed_of_covers_outer hk hb hcov⟩
    rw [(Block.mem_find hb).2] at helided ⊢
    exact (Text.occursIn_iff _ _).1 helided
  refine ⟨hpick, hord, fun k hk => ⟨hchar k hk, stays_shifted w r.blocks hk⟩, hsub, hborrowed,
    fun hargs => ?_⟩
  have hall : (outer template).filter (!lost ·) = outer template := by
    refine List.filter_eq_self.2 fun k hk => ?_
    rw [Bool.not_eq_true', List.any_eq_false]
    intro b hb hlost
    rw [Bool.and_eq_true] at hlost
    obtain ⟨-, p, hp, i, hborrow⟩ := hborrowed b hb hlost.1 ⟨k, hk, hlost.2⟩
    have hnone := hw.braceless he hargs p hp
    rcases hborrow with ⟨hi, -⟩ | ⟨hi, -⟩
    · exact absurd (hnone _ (List.mem_of_getElem? hi)) (by decide)
    · exact absurd (hnone _ (List.mem_of_getElem? hi)) (by decide)
  rw [← hall]
  exact hsub

/-- Braces of two values around template text are no more than braces unless `NULL` is there. -/
theorem Compiler.compile_outer_braced :
    let c : Compiler := ⟨.mysql, .standard, true⟩
    let template : Text := "a ? b ? c".toList
    let args := [.text "\x7b".toList, .text "x\x7d".toList]
    ∃ r, (c.compile template args).result = .ok r ∧ r.query = "a '' b 'x' c".toList ∧
      ∃ w : Placeholder → Text, Placeholder.Written c.escaper args r.placeholders w ∧
        (template.pick ((outer template).filter fun k => !r.blocks.any fun b =>
          b.elided && b.span.covers (template.shifted (filling template w) k))).Sublist
            r.query := by
  intro c template args
  have h : (c.compile template args).result = .ok _ := rfl
  obtain ⟨w, hw, -, -, -, hsub, -⟩ := compile_outer rfl List.mem_cons_self h
  exact ⟨_, h, by decide, w, hw, hsub⟩

/-- Two values can take away the text between them. -/
theorem Compiler.compile_loses_outer :
    let c : Compiler := ⟨.mysql, .standard, true⟩
    let template : Text := "a ? b ? c".toList
    ∃ r, (c.compile template [.text "\x7b".toList, .text "NULL\x7d".toList]).result = .ok r ∧
      r.query = "a '' c".toList ∧ ¬ (template.pick (outer template)).Sublist r.query :=
  ⟨_, rfl, by decide, by decide⟩

end QueryTemplate
