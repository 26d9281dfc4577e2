import QueryTemplate.Proofs.Identifiers

/-! Which characters a written value has: those of its strings, and a few of its own. -/
namespace QueryTemplate

/-- The strings inside a value: itself, its items, and the keys and values of a mapping. -/
inductive Value.Holds (s : Text) : Value → Prop
  | text : Holds s (.text s)
  | listItem {items : List Value} {v : Value} : v ∈ items → Holds s v → Holds s (.list items)
  | tupleItem {items : List Value} {v : Value} : v ∈ items → Holds s v → Holds s (.tuple items)
  | mapKey {typeName : String} {entries : List (Key × Value)} {v : Value} :
      (.text s, v) ∈ entries → Holds s (.map typeName entries)
  | mapValue {typeName : String} {entries : List (Key × Value)} {k : Key} {v : Value} :
      (k, v) ∈ entries → Holds s v → Holds s (.map typeName entries)

/-- The characters that values are written with whatever their strings. -/
def alphabet : List Char :=
  ['0', '1', '2', '3', '4', '5', '6', '7', '8', '9', '+', '-', '.', ',', ' ', '=', '\'', '\x60',
    '\\', 'F', 'I', 'K', 'L', 'N', 'P', 'S', 'T', 'U', 'Z', 'a', 'e', 'f', 'i', 'l', 'n', 'o', 'r',
    's', 'u']

variable {c : Char} {e : Escaper} {token text : Text} {v : Value}

section Numerals

theorem mem_alphabet_of_isDigit (h : c.isDigit = true) : c ∈ alphabet := by
  have hall : ∀ n, n < 58 → 48 ≤ n → Char.ofNat n ∈ alphabet := by decide
  rw [Char.isDigit_iff_toNat] at h
  have hmem := hall c.toNat (Nat.lt_succ_of_le h.2) h.1
  rwa [Char.ofNat_toNat] at hmem

theorem toDigits_subset (n : Nat) : Nat.toDigits 10 n ⊆ alphabet := fun _ hc =>
  mem_alphabet_of_isDigit (Nat.isDigit_of_mem_toDigits (by decide) (by decide) hc)

private theorem sign_subset (p : Prop) [Decidable p] :
    (if p then ['-'] else ([] : Text)) ⊆ alphabet := by
  split_ifs
  · decide
  · exact List.nil_subset _

theorem intText_subset (n : Int) : intText n ⊆ alphabet :=
  List.append_subset.2 ⟨sign_subset _, toDigits_subset _⟩

private theorem zeros_subset (n : Nat) : NumberStyle.zeros n ⊆ alphabet := by
  intro c hc
  rw [(List.mem_replicate.1 hc).2]
  decide

private theorem positional_subset {digits : Text} (hd : digits ⊆ alphabet) (point : Int) :
    NumberStyle.positional digits point ⊆ alphabet := by
  unfold NumberStyle.positional
  split_ifs
  · simp only [List.cons_append, List.cons_subset, List.append_subset]
    exact ⟨by decide, by decide, zeros_subset _, hd⟩
  · simp only [List.cons_subset, List.append_subset]
    exact ⟨⟨hd, zeros_subset _⟩, by decide, by decide, List.nil_subset _⟩
  · simp only [List.cons_subset, List.append_subset]
    exact ⟨List.Subset.trans (List.take_subset _ _) hd, by decide,
      List.Subset.trans (List.drop_subset _ _) hd⟩

private theorem exponential_subset (style : NumberStyle) {digits : Text} (hd : digits ⊆ alphabet)
    (exponent : Int) : style.exponential digits exponent ⊆ alphabet := by
  have hfraction : (if digits.length ≤ 1 then [] else '.' :: digits.drop 1) ⊆ alphabet := by
    split_ifs
    · exact List.nil_subset _
    · exact List.cons_subset.2 ⟨by decide, List.Subset.trans (List.drop_subset _ _) hd⟩
  have hsign : (if exponent < 0 then '-' else '+') ∈ alphabet := by
    split_ifs <;> decide
  simp only [NumberStyle.exponential, List.cons_subset, List.append_subset]
  exact ⟨⟨⟨List.Subset.trans (List.take_subset _ _) hd, hfraction⟩, by decide, hsign,
    zeros_subset _⟩, toDigits_subset _⟩

theorem text_subset (x : Binary64) : x.text ⊆ alphabet := by
  have hmagnitude : NumberStyle.plain.magnitude x ⊆ alphabet := by
    unfold NumberStyle.magnitude
    split_ifs
    · decide
    · dsimp only
      split_ifs
      · exact positional_subset (toDigits_subset _) _
      · exact exponential_subset _ (toDigits_subset _) _
  have hinfinity : NumberStyle.plain.infinity.toList ⊆ alphabet := by decide
  have hnan : NumberStyle.plain.nan.toList ⊆ alphabet := by decide
  have hsize : (if x.isFinite then NumberStyle.plain.magnitude x
      else NumberStyle.plain.infinity.toList) ⊆ alphabet := by
    split_ifs
    · exact hmagnitude
    · exact hinfinity
  rw [Binary64.text, NumberStyle.write]
  by_cases h : x.isNaN
  · rwa [if_pos h]
  · rw [if_neg h]
    exact List.append_subset.2 ⟨sign_subset _, hsize⟩

end Numerals

namespace Format

theorem mem_joined {parts : List Text} (h : c ∈ joined parts) :
    c ∈ alphabet ∨ ∃ part ∈ parts, c ∈ part := by
  induction parts with
  | nil => exact absurd h List.not_mem_nil
  | cons part rest ih =>
    cases rest with
    | nil =>
      rw [joined, List.intercalate_singleton] at h
      exact Or.inr ⟨part, List.mem_cons_self, h⟩
    | cons next rest =>
      rw [joined, List.intercalate_cons_cons, List.append_assoc, List.mem_append,
        List.mem_append] at h
      rcases h with h | h | h
      · exact Or.inr ⟨part, List.mem_cons_self, h⟩
      · left
        have hseparator : listSeparator ⊆ alphabet := by decide
        exact hseparator h
      · rcases ih h with h | ⟨p, hp, h⟩
        · exact Or.inl h
        · exact Or.inr ⟨p, List.mem_cons_of_mem _ hp, h⟩

theorem mem_escape {q : Quoting} (he : e.escape = q.escape) {s : Text} (h : c ∈ e.escape s) :
    c ∈ alphabet ∨ c ∈ s := by
  rw [he] at h
  rcases Quoting.mem_escape h with h | h
  · exact Or.inr h
  · have hadded : Quoting.added ⊆ alphabet := by decide
    exact Or.inl (hadded h)

theorem mem_quoted {q : Quoting} (he : e.escape = q.escape) {s : Text} {mark : Char}
    (hmark : mark ∈ alphabet) (h : c ∈ mark :: e.escape s ++ [mark]) :
    c ∈ alphabet ∨ c ∈ s := by
  rcases List.mem_append.1 h with h | h
  · rcases List.mem_cons.1 h with rfl | h
    · exact Or.inl hmark
    · exact mem_escape he h
  · rw [List.mem_singleton.1 h]
    exact Or.inl hmark

/-- A character of a string that a value holds, or one that any value may be written with. -/
def Native (v : Value) (c : Char) : Prop := c ∈ alphabet ∨ ∃ s, v.Holds s ∧ c ∈ s

theorem Native.imp {v w : Value} (h : Native v c) (hvw : ∀ s, v.Holds s → w.Holds s) :
    Native w c := by
  rcases h with h | ⟨s, hs, h⟩
  · exact Or.inl h
  · exact Or.inr ⟨s, hvw s hs, h⟩

private theorem omissionToken_subset : omissionToken ⊆ alphabet := by decide

theorem mem_write {k : Key} (h : c ∈ k.write) : c ∈ alphabet ∨ ∃ s, k = .text s ∧ c ∈ s := by
  have hbool : ∀ b, Key.write (.bool b) ⊆ alphabet := by decide
  have hnull : Key.write .null ⊆ alphabet := by decide
  have hskip : Key.write .skip ⊆ alphabet := by decide
  cases k with
  | null => exact Or.inl (hnull h)
  | skip => exact Or.inl (hskip h)
  | bool b => exact Or.inl (hbool b h)
  | int n => exact Or.inl (intText_subset n h)
  | float x => exact Or.inl (text_subset x h)
  | text s => exact Or.inr ⟨s, rfl, h⟩

theorem native_scalar {q : Quoting} (he : e.escape = q.escape)
    (h : (scalar e token v).result = .ok text) (hc : c ∈ text) : Native v c := by
  unfold scalar at h
  split at h
  next => exact Or.inl (omissionToken_subset (Except.ok.inj h ▸ hc))
  next => exact Or.inl (omissionToken_subset (Except.ok.inj h ▸ hc))
  next b =>
    left
    obtain rfl := Except.ok.inj h
    cases b <;> rw [List.mem_singleton.1 hc] <;> decide
  next n => exact Or.inl (intText_subset n (Except.ok.inj h ▸ hc))
  next x =>
    split_ifs at h
    · exact Or.inl (text_subset x (Except.ok.inj h ▸ hc))
    · exact absurd h (by simp [Escaping.refuse])
  next s =>
    obtain rfl := Except.ok.inj h
    rcases mem_quoted he (by decide) hc with h | h
    · exact Or.inl h
    · exact Or.inr ⟨s, .text, h⟩
  next => exact absurd h (by simp [Escaping.refuse])

theorem native_items {q : Quoting} (he : e.escape = q.escape) {vs : List Value}
    (h : (items e token vs).result = .ok text) (hc : c ∈ text) :
    c ∈ alphabet ∨ ∃ v ∈ vs, Native v c := by
  simp only [items, Escaping.result_bind, bind_eq_ok_iff, Escaping.result_pure,
    Except.ok.injEq] at h
  obtain ⟨parts, hparts, rfl⟩ := h
  rcases mem_joined hc with hc | ⟨part, hpart, hc⟩
  · exact Or.inl hc
  · obtain ⟨v, hv, hpart⟩ := exists_of_mem_result_each hparts hpart
    exact Or.inr ⟨v, hv, native_scalar he hpart hc⟩

theorem native_assignments {q : Quoting} (he : e.escape = q.escape) {typeName : String}
    {entries : List (Key × Value)} (h : (assignments e token entries).result = .ok text)
    (hc : c ∈ text) : Native (.map typeName entries) c := by
  simp only [assignments, Escaping.result_bind, bind_eq_ok_iff, Escaping.result_pure,
    Except.ok.injEq] at h
  obtain ⟨parts, hparts, rfl⟩ := h
  rcases mem_joined hc with hc | ⟨part, hpart, hc⟩
  · exact Or.inl hc
  obtain ⟨⟨k, v⟩, hentry, hpart⟩ := exists_of_mem_result_each hparts hpart
  obtain ⟨value, hvalue, rfl⟩ := result_assignment hpart
  have hequals : [' ', '=', ' '] ⊆ alphabet := by decide
  rcases List.mem_append.1 hc with hc | hc
  · rcases List.mem_append.1 hc with hc | hc
    · rcases mem_quoted he (by decide) hc with hc | hc
      · exact Or.inl hc
      · rcases mem_write hc with hc | ⟨s, rfl, hc⟩
        · exact Or.inl hc
        · exact Or.inr ⟨s, .mapKey hentry, hc⟩
    · exact Or.inl (hequals hc)
  · exact (native_scalar he hvalue hc).imp fun s => .mapValue hentry

theorem native_array {q : Quoting} (he : e.escape = q.escape)
    (h : (array e token v).result = .ok text) (hc : c ∈ text) : Native v c := by
  unfold array at h
  split at h
  next vs =>
    rcases native_items he h hc with hc | ⟨v, hv, hc⟩
    · exact Or.inl hc
    · exact hc.imp fun s => .listItem hv
  next vs =>
    rcases native_items he h hc with hc | ⟨v, hv, hc⟩
    · exact Or.inl hc
    · exact hc.imp fun s => .tupleItem hv
  next typeName entries =>
    split at h
    · rcases native_items he h hc with hc | ⟨v, hv, hc⟩
      · exact Or.inl hc
      · obtain ⟨⟨k, v⟩, hentry, rfl⟩ := List.mem_map.1 hv
        exact hc.imp fun s => .mapValue hentry
    · exact native_assignments he h hc
  next => exact absurd h (by simp [Escaping.refuse])

theorem native_identifier {q : Quoting} (he : e.escape = q.escape)
    (h : (identifier e token v).result = .ok text) (hc : c ∈ text) : Native v c := by
  obtain ⟨ns, hv, -, rfl⟩ := result_identifier h
  rcases mem_joined hc with hc | ⟨part, hpart, hc⟩
  · exact Or.inl hc
  obtain ⟨n, hn, rfl⟩ := List.mem_map.1 hpart
  rcases mem_quoted he (by decide) hc with hc | hc
  · exact Or.inl hc
  refine Or.inr ⟨n, ?_, hc⟩
  rcases hv with rfl | rfl | ⟨n', rfl, rfl⟩
  · exact .listItem (List.mem_map_of_mem hn) .text
  · exact .tupleItem (List.mem_map_of_mem hn) .text
  · rw [List.mem_singleton.1 hn]
    exact .text

end Format

/-- No value brings in a character of its own: all come from its strings or the alphabet. -/
theorem Specifier.native_format {s : Specifier} {q : Quoting} (he : e.escape = q.escape)
    (h : (s.format e v).result = .ok text) (hc : c ∈ text) : Format.Native v c := by
  unfold Specifier.format at h
  split at h
  next =>
    unfold Format.integer at h
    split at h
    next => exact Or.inl (intText_subset _ (Except.ok.inj h ▸ hc))
    next => exact Or.inl (intText_subset _ (Except.ok.inj h ▸ hc))
    next =>
      split_ifs at h
      · exact Or.inl (Format.omissionToken_subset (Except.ok.inj h ▸ hc))
      · exact absurd h (by simp [Escaping.refuse])
  next =>
    unfold Format.float at h
    split at h
    next =>
      split_ifs at h
      · exact Or.inl (text_subset _ (Except.ok.inj h ▸ hc))
      · exact absurd h (by simp [Escaping.refuse])
    next =>
      split_ifs at h
      · exact Or.inl (Format.omissionToken_subset (Except.ok.inj h ▸ hc))
      · exact absurd h (by simp [Escaping.refuse])
  next => exact Format.native_array he h hc
  next => exact Format.native_identifier he h hc
  next => exact Format.native_scalar he h hc
  next => exact absurd h (by simp)

end QueryTemplate
