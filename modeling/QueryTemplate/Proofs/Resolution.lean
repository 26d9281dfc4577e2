import QueryTemplate.Proofs.Survivors

/-! The blocks that are listed and the text that is left when they are resolved agree. -/
namespace QueryTemplate
namespace Block

variable {omission text : Text} {b : Block} {c : Char}

theorem exists_mem_find_iff (omission : Text) (s : Span) :
    (∃ b ∈ find omission text, b.span = s) ↔ Encloses text s := by
  constructor
  · rintro ⟨b, hb, rfl⟩
    exact (mem_find hb).1
  · intro h
    exact ⟨ofSpan omission text s, List.mem_map_of_mem (mem_spans_iff.2 h), rfl⟩

theorem content_of_mem_find (hb : b ∈ find omission text) :
    b.content = (text.drop (b.start + 1)).take (b.stop - 1 - (b.start + 1)) := by
  obtain ⟨henc, hof⟩ := mem_find hb
  calc
    b.content = contentOf (b.span.of text) := congrArg content hof
    _ = _ := contentOf_of henc

theorem elided_iff_of_mem_find (hb : b ∈ find omission text) :
    b.elided = true ↔ omission <:+: b.content := by
  obtain ⟨-, hof⟩ := mem_find hb
  have hcontent : b.content = contentOf (b.span.of text) := congrArg content hof
  have helided : b.elided = omission.occursIn (contentOf (b.span.of text)) := congrArg elided hof
  rw [helided, hcontent, Text.occursIn_iff]

theorem isBrace_of_mem_resolve (hc : c ∈ resolve omission text) : isBrace c = false := by
  have hkept := (List.mem_filter.1 hc).2
  rwa [Bool.not_eq_true'] at hkept

/-- The blocks listed are the stretches from an opening brace to the next brace, if that closes, in
order; those that hold the omission token are cut out when the text is resolved, and besides them
nothing but the braces. -/
theorem find_agrees_with_resolve (omission text : Text) :
    let blocks := find omission text
    blocks.Pairwise (fun a b => a.stop ≤ b.start) ∧
    (∀ s, (∃ b ∈ blocks, b.span = s) ↔ Encloses text s) ∧
    (∀ b ∈ blocks, b.content = (text.drop (b.start + 1)).take (b.stop - 1 - (b.start + 1)) ∧
      (b.elided = true ↔ omission <:+: b.content)) ∧
    resolve omission text =
      (text.edited ((blocks.filter (·.elided)).map cut)).filter (!isBrace ·) ∧
    resolve omission text = text.pick ((List.range text.length).filter (stays text blocks)) ∧
    ∀ c ∈ resolve omission text, isBrace c = false :=
  ⟨pairwise_find omission text, exists_mem_find_iff omission,
    fun _ hb => ⟨content_of_mem_find hb, elided_iff_of_mem_find hb⟩, resolve_eq_cut omission text,
    resolve_eq_pick omission text, fun _ => isBrace_of_mem_resolve⟩

/-- A block is not looked for inside another, and a brace that has no other is dropped. -/
example : find omissionToken "\x7ba\x7bNULL\x7d\x7d\x7bb".toList = [⟨"NULL".toList, 2, 8, true⟩] ∧
    resolve omissionToken "\x7ba\x7bNULL\x7d\x7d\x7bb".toList = "ab".toList := by decide

end Block
end QueryTemplate
