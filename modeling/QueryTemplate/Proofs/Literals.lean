import QueryTemplate.Proofs.Escaping

/-! How a server reads a list of literals, and that it reads what was written. -/
namespace QueryTemplate

/-- What a literal stands for. -/
inductive Literal where
  | null
  | number (n : Int)
  | text (s : Text)
deriving DecidableEq, Repr

/-- What a value is meant to be read as; a floating-point number, which may have a fraction, and a
value with parts are no literals of this kind. -/
def Value.literal? : Value → Option Literal
  | .null | .skip => some .null
  | .bool b => some (.number (if b then 1 else 0))
  | .int n => some (.number n)
  | .text s => some (.text s)
  | _ => none

namespace Literal

/-- The character that is meant by one with a backslash before it. -/
def unescaped (c : Char) : Char :=
  if c = '0' then '\x00' else if c = 'n' then '\n' else if c = 'r' then '\r'
  else if c = 'Z' then '\x1a' else c

/-- The content of a literal of which the opening quotation mark was read, and what follows it. -/
def quoted? (q : Quoting) : Text → Option (Text × Text)
  | [] => none
  | [c] => if c = '\'' then some ([], []) else none
  | c :: d :: rest =>
    if c = '\\' ∧ q = .backslash then (quoted? q rest).map fun r => (unescaped d :: r.1, r.2)
    else if c = '\'' then
      if d = '\'' ∧ q = .doubled then (quoted? q rest).map fun r => ('\'' :: r.1, r.2)
      else some ([], d :: rest)
    else (quoted? q (d :: rest)).map fun r => (c :: r.1, r.2)

def natural? (digits : Text) : Option Nat :=
  if digits ≠ [] ∧ digits.all Char.isDigit then some (Nat.ofDigitChars 10 digits 0) else none

/-- The literal of a word without quotation marks. -/
def ofWord? (word : Text) : Option Literal :=
  if word = ['N', 'U', 'L', 'L'] then some .null
  else if word.head? = some '-' then (natural? word.tail).map fun n : Nat => .number (-n)
  else (natural? word).map fun n : Nat => .number n

/-- The literal at the head of a text, and what follows it. -/
def item? (q : Quoting) (input : Text) : Option (Literal × Text) :=
  if input.head? = some '\'' then (quoted? q input.tail).map fun r => (.text r.1, r.2)
  else (ofWord? (input.takeWhile (· != ','))).map fun l => (l, input.dropWhile (· != ','))

variable {q : Quoting} {input rest : Text} {c : Char} {l : Literal}

theorem length_le_of_quoted? {r : Text × Text} (h : quoted? q input = some r) :
    r.2.length ≤ input.length := by
  fun_induction quoted? q input generalizing r with
  | case1 => exact absurd h (by simp)
  | case2 => rw [← Option.some.inj h]; exact Nat.zero_le _
  | case3 => exact absurd h (by simp)
  | case4 c d rest' hc ih =>
    obtain ⟨r', hr, rfl⟩ := Option.map_eq_some_iff.1 h
    have hle := ih hr
    simp only [List.length_cons]
    omega
  | case5 c rest' hc hd ih =>
    obtain ⟨r', hr, rfl⟩ := Option.map_eq_some_iff.1 h
    have hle := ih hr
    simp only [List.length_cons]
    omega
  | case6 d rest' hc hd =>
    rw [← Option.some.inj h]
    exact Nat.le_succ _
  | case7 c d rest' hc hquote ih =>
    obtain ⟨r', hr, rfl⟩ := Option.map_eq_some_iff.1 h
    exact Nat.le_succ_of_le (ih (r := r') hr)

theorem length_le_of_item? {r : Literal × Text} (h : item? q input = some r) :
    r.2.length ≤ input.length := by
  unfold item? at h
  split_ifs at h
  · obtain ⟨r', hr, rfl⟩ := Option.map_eq_some_iff.1 h
    have hle := length_le_of_quoted? hr
    rw [List.length_tail] at hle
    exact Nat.le_trans hle (Nat.sub_le _ _)
  · obtain ⟨l, -, rfl⟩ := Option.map_eq_some_iff.1 h
    exact (List.dropWhile_sublist _).length_le

/-- Literals with a comma and a blank between them. -/
def items? (q : Quoting) (input : Text) : Option (List Literal) :=
  match _h : item? q input with
  | none => none
  | some (l, []) => some [l]
  | some (l, ',' :: ' ' :: rest) => (items? q rest).map (l :: ·)
  | some _ => none
termination_by input.length
decreasing_by
  have hle := length_le_of_item? ‹_›
  simp only [List.length_cons] at hle
  omega

/-- A list of literals, which may be empty. -/
def list? (q : Quoting) (input : Text) : Option (List Literal) :=
  if input.isEmpty then some [] else items? q input

section Quoted

theorem quoted?_backslash (c : Char) (rest : Text) : quoted? .backslash ('\\' :: c :: rest) =
    (quoted? .backslash rest).map fun r => (unescaped c :: r.1, r.2) := by
  simp [quoted?]

theorem quoted?_doubled (rest : Text) : quoted? .doubled ('\'' :: '\'' :: rest) =
    (quoted? .doubled rest).map fun r => ('\'' :: r.1, r.2) := by
  simp [quoted?]

theorem quoted?_other (hc : c ≠ '\'') (hb : ¬ (c = '\\' ∧ q = .backslash)) (rest : Text) :
    quoted? q (c :: rest) = (quoted? q rest).map fun r => (c :: r.1, r.2) := by
  cases rest with
  | nil => simp [quoted?, hc]
  | cons d rest => rw [quoted?, if_neg hb, if_neg hc]

theorem quoted?_quote (hrest : rest.head? ≠ some '\'') :
    quoted? q ('\'' :: rest) = some ([], rest) := by
  cases rest with
  | nil => simp [quoted?]
  | cons d rest =>
    have hd : d ≠ '\'' := fun hd => hrest (by rw [hd]; rfl)
    simp [quoted?, hd]

/-- What a character is escaped to is read as that character. -/
theorem quoted?_escapeChar (q : Quoting) (c : Char) (rest : Text) :
    quoted? q (q.escapeChar c ++ rest) = (quoted? q rest).map fun r => (c :: r.1, r.2) := by
  cases q with
  | backslash =>
    simp only [Quoting.escapeChar, Bool.or_eq_true, beq_iff_eq]
    split_ifs with h0 hn hr hz hmark
    · subst h0
      exact quoted?_backslash '0' rest
    · subst hn
      exact quoted?_backslash 'n' rest
    · subst hr
      exact quoted?_backslash 'r' rest
    · subst hz
      exact quoted?_backslash 'Z' rest
    · have hself : unescaped c = c := by
        rcases hmark with (rfl | rfl) | rfl <;> decide
      rw [List.cons_append, List.singleton_append, quoted?_backslash, hself]
    · rw [not_or, not_or] at hmark
      exact quoted?_other hmark.1.2 (fun h => hmark.2 h.1) rest
  | doubled =>
    simp only [Quoting.escapeChar, beq_iff_eq]
    split_ifs with hc
    · subst hc
      exact quoted?_doubled rest
    · exact quoted?_other hc (fun h => by simp at h) rest

/-- The reader stops at the closing quotation mark and has read what was written. -/
theorem quoted?_escape (q : Quoting) (s : Text) (hrest : rest.head? ≠ some '\'') :
    quoted? q (q.escape s ++ '\'' :: rest) = some (s, rest) := by
  induction s with
  | nil => exact quoted?_quote hrest
  | cons c s ih => rw [Quoting.escape_cons, List.append_assoc, quoted?_escapeChar, ih]; rfl

end Quoted

section Words

theorem natural?_toDigits (n : Nat) : natural? (Nat.toDigits 10 n) = some n := by
  have hdigits : (Nat.toDigits 10 n).all Char.isDigit = true :=
    List.all_eq_true.2 fun c hc => Nat.isDigit_of_mem_toDigits (by decide) (by decide) hc
  rw [natural?, if_pos ⟨Nat.toDigits_ne_nil, hdigits⟩, Nat.ofDigitChars_ten_toDigits]

theorem mem_intText {n : Int} (h : c ∈ intText n) : c = '-' ∨ c.isDigit = true := by
  rcases List.mem_append.1 h with h | h
  · split_ifs at h
    · exact Or.inl (List.mem_singleton.1 h)
    · exact absurd h List.not_mem_nil
  · exact Or.inr (Nat.isDigit_of_mem_toDigits (by decide) (by decide) h)

theorem intText_ne_nil (n : Int) : intText n ≠ [] := fun h =>
  Nat.toDigits_ne_nil (List.append_eq_nil_iff.1 h).2

theorem ofWord?_intText (n : Int) : ofWord? (intText n) = some (.number n) := by
  have hnull : intText n ≠ ['N', 'U', 'L', 'L'] := by
    intro h
    have hmem : 'N' ∈ intText n := h ▸ List.mem_cons_self
    rcases mem_intText hmem with h' | h' <;> exact absurd h' (by decide)
  rw [ofWord?, if_neg hnull]
  by_cases hn : n < 0
  · have hn' : -(n.natAbs : Int) = n := by omega
    have htext : intText n = '-' :: Nat.toDigits 10 n.natAbs := by rw [intText, if_pos hn]; rfl
    rw [htext, if_pos (List.head?_cons), List.tail_cons, natural?_toDigits, Option.map_some, hn']
  · have hn' : (n.natAbs : Int) = n := by omega
    have htext : intText n = Nat.toDigits 10 n.natAbs := by rw [intText, if_neg hn]; rfl
    have hsign : (Nat.toDigits 10 n.natAbs).head? ≠ some '-' := by
      intro h
      have := Nat.isDigit_of_mem_toDigits (by decide) (by decide) (List.mem_of_mem_head? h)
      exact absurd this (by decide)
    rw [htext, if_neg hsign, natural?_toDigits, Option.map_some, hn']

end Words

/-- Does the text end here, or go on with a comma? -/
def Ends (rest : Text) : Prop := ∀ d ∈ rest.head?, d = ','

theorem item?_literal (q : Quoting) (s : Text) (hrest : Ends rest) :
    item? q ('\'' :: q.escape s ++ ['\''] ++ rest) = some (.text s, rest) := by
  have hquote : rest.head? ≠ some '\'' := fun h => absurd (hrest _ h) (by decide)
  rw [List.append_assoc, List.cons_append, item?, if_pos List.head?_cons, List.tail_cons]
  exact congrArg _ (quoted?_escape q s hquote)

/-- A word has an end of its own: at the next comma. -/
theorem item?_word {word : Text} (hne : word ≠ []) (hplain : ∀ c ∈ word, c ≠ ',' ∧ c ≠ '\'')
    (hrest : Ends rest) :
    item? q (word ++ rest) = (ofWord? word).map fun l => (l, rest) := by
  have hhead : (word ++ rest).head? ≠ some '\'' := by
    rw [List.head?_append_of_ne_nil _ hne]
    exact fun h => (hplain _ (List.mem_of_mem_head? h)).2 rfl
  have hin : ∀ c ∈ word, (c != ',') = true := fun c hc => bne_iff_ne.2 (hplain c hc).1
  have hstop : rest.takeWhile (· != ',') = [] ∧ rest.dropWhile (· != ',') = rest := by
    cases rest with
    | nil => exact ⟨rfl, rfl⟩
    | cons d rest =>
      obtain rfl : d = ',' := hrest d rfl
      exact ⟨rfl, rfl⟩
  rw [item?, if_neg hhead, List.takeWhile_append_of_pos hin, List.dropWhile_append_of_pos hin,
    hstop.1, hstop.2, List.append_nil]

theorem item?_intText (n : Int) (hrest : Ends rest) :
    item? q (intText n ++ rest) = some (.number n, rest) := by
  have hplain : ∀ c ∈ intText n, c ≠ ',' ∧ c ≠ '\'' := by
    intro c hc
    rcases mem_intText hc with rfl | hdigit
    · decide
    · constructor <;> rintro rfl <;> exact absurd hdigit (by decide)
  rw [item?_word (intText_ne_nil n) hplain hrest, ofWord?_intText]
  rfl

/-- A value that is written is read back, up to the comma after it. -/
theorem item?_scalar {e : Escaper} (he : e.escape = q.escape) (token : Text) {v : Value}
    (hv : v.literal? = some l) :
    ∃ written, (Format.scalar e token v).result = .ok written ∧ written ≠ [] ∧
      ∀ rest, Ends rest → item? q (written ++ rest) = some (l, rest) := by
  have hnull : ∀ rest, Ends rest → item? q (omissionToken ++ rest) = some (.null, rest) := by
    intro rest hrest
    have hplain : ∀ c ∈ omissionToken, c ≠ ',' ∧ c ≠ '\'' :=
      List.forall_iff_forall_mem.1 (by decide)
    rw [item?_word (by decide) hplain hrest]
    rfl
  cases v with
  | null =>
    obtain rfl := Option.some.inj hv
    exact ⟨_, rfl, by decide, hnull⟩
  | skip =>
    obtain rfl := Option.some.inj hv
    exact ⟨_, rfl, by decide, hnull⟩
  | bool b =>
    obtain rfl := Option.some.inj hv
    have hbit : (if b then ['1'] else ['0']) = intText (if b then 1 else 0) := by
      cases b <;> decide
    exact ⟨_, rfl, by split_ifs <;> decide, fun rest hrest => hbit ▸ item?_intText _ hrest⟩
  | int n =>
    obtain rfl := Option.some.inj hv
    exact ⟨_, rfl, intText_ne_nil n, fun rest hrest => item?_intText n hrest⟩
  | text s =>
    obtain rfl := Option.some.inj hv
    refine ⟨'\'' :: e.escape s ++ ['\''], rfl, List.cons_ne_nil _ _, fun rest hrest => ?_⟩
    rw [he]
    exact item?_literal q s hrest
  | _ => exact absurd hv (by simp [Value.literal?])

theorem items?_of_last (h : item? q input = some (l, [])) : items? q input = some [l] := by
  rw [items?]
  split <;> simp_all

theorem items?_of_more (h : item? q input = some (l, ',' :: ' ' :: rest)) :
    items? q input = (items? q rest).map (l :: ·) := by
  rw [items?]
  split <;> simp_all

/-- Items that are read back one by one are read back as a list. -/
theorem items?_joined {parts : List Text} {ls : List Literal} (hne : parts ≠ [])
    (h : List.Forall₂ (fun part l => ∀ rest, Ends rest → item? q (part ++ rest) = some (l, rest))
      parts ls) :
    items? q (Format.joined parts) = some ls := by
  induction h with
  | nil => exact absurd rfl hne
  | @cons part l parts ls hpart hparts ih =>
    cases hparts with
    | nil =>
      have hread := hpart [] fun d hd => absurd hd (by simp)
      rw [List.append_nil] at hread
      rw [Format.joined, List.intercalate_singleton]
      exact items?_of_last hread
    | @cons next l' parts ls hnext hrest =>
      have hread := hpart (',' :: ' ' :: Format.joined (next :: parts)) fun d hd =>
        (Option.some.inj hd).symm
      have hjoined : Format.joined (part :: next :: parts) =
          part ++ ',' :: ' ' :: Format.joined (next :: parts) := by
        rw [Format.joined, List.intercalate_cons_cons, List.append_assoc]
        rfl
      rw [hjoined, items?_of_more hread, ih (List.cons_ne_nil _ _)]
      rfl

theorem list?_joined {parts : List Text} {ls : List Literal} (hne : ∀ part ∈ parts, part ≠ [])
    (h : List.Forall₂ (fun part l => ∀ rest, Ends rest → item? q (part ++ rest) = some (l, rest))
      parts ls) :
    list? q (Format.joined parts) = some ls := by
  cases parts with
  | nil =>
    obtain rfl := List.forall₂_nil_left_iff.1 h
    rfl
  | cons part parts =>
    have hwritten : (Format.joined (part :: parts)).isEmpty = false := by
      obtain ⟨c, more, hpart⟩ := List.exists_cons_of_ne_nil (hne part List.mem_cons_self)
      cases parts with
      | nil => rw [Format.joined, List.intercalate_singleton, hpart]; rfl
      | cons next parts => rw [Format.joined, List.intercalate_cons_cons, hpart]; rfl
    rw [list?, if_neg (Bool.eq_false_iff.1 hwritten)]
    exact items?_joined (List.cons_ne_nil _ _) h

/-- Values that are literals are all accepted, and each is read back from its part. -/
theorem exists_parts {e : Escaper} (he : e.escape = q.escape) (token : Text) {items : List Value}
    (hitems : ∀ v ∈ items, v.literal?.isSome) :
    ∃ (parts : List Text) (ls : List Literal),
      (Format.each (Format.scalar e token) items).result = .ok parts ∧
      items.map Value.literal? = ls.map some ∧ (∀ part ∈ parts, part ≠ []) ∧
      List.Forall₂ (fun part l => ∀ rest, Ends rest → item? q (part ++ rest) = some (l, rest))
        parts ls := by
  induction items with
  | nil => exact ⟨[], [], rfl, rfl, fun part h => absurd h List.not_mem_nil, .nil⟩
  | cons v items ih =>
    obtain ⟨hv, hitems⟩ := List.forall_mem_cons.1 hitems
    obtain ⟨l, hl⟩ := Option.isSome_iff_exists.1 hv
    obtain ⟨part, hpart, hne, hread⟩ := item?_scalar he token hl
    obtain ⟨parts, ls, heach, hls, hrest, hforall⟩ := ih hitems
    refine ⟨part :: parts, l :: ls,
      Format.result_each_eq_ok.2 (.cons hpart (Format.result_each_eq_ok.1 heach)), ?_,
      List.forall_mem_cons.2 ⟨hne, hrest⟩, .cons hread hforall⟩
    rw [List.map_cons, hl, hls, List.map_cons]

/-- Lists of literals are read back as the items they were written from: none is cut off, joined
to another or left out, whatever the strings among them hold. -/
theorem list?_array {e : Escaper} (he : e = .mysql ∧ q = .backslash ∨ e = .connection q)
    {items : List Value} (hitems : ∀ v ∈ items, v.literal?.isSome) {v : Value}
    (hv : v = .list items ∨ v = .tuple items) :
    ∃ written ls, (Specifier.array.format e v).result = .ok written ∧
      list? q written = some ls ∧ items.map Value.literal? = ls.map some := by
  have hescape : e.escape = q.escape := by
    rcases he with ⟨rfl, rfl⟩ | rfl <;> rfl
  obtain ⟨parts, ls, heach, hls, hne, hread⟩ :=
    exists_parts hescape Specifier.array.token hitems
  refine ⟨Format.joined parts, ls, ?_, list?_joined hne hread, hls⟩
  have hwritten : (Format.items e Specifier.array.token items).result =
      .ok (Format.joined parts) := by
    rw [Format.items, Escaping.result_bind, heach]
    rfl
  rcases hv with rfl | rfl <;> exact hwritten

/-- A backslash and a quotation mark at the end of a string, and strings that look like literals. -/
theorem list?_array_doubled :
    let items := [Value.text "it's\\".toList, .skip, .text "', '".toList, .bool true,
      .text "NULL".toList, .int (-12)]
    let written := "'it''s\\', NULL, ''', ''', 1, 'NULL', -12".toList
    (Escaper.connection .doubled = .mysql ∧ Quoting.doubled = .backslash ∨
      Escaper.connection .doubled = .connection .doubled) ∧
    (∀ v ∈ items, v.literal?.isSome) ∧
    (Specifier.array.format (.connection .doubled) (.list items)).result = .ok written ∧
    list? .doubled written = some [.text "it's\\".toList, .null, .text "', '".toList, .number 1,
      .text "NULL".toList, .number (-12)] := by
  intro items written
  have hitems : ∀ v ∈ items, v.literal?.isSome := by
    simp [items, Value.literal?]
  have hformat : (Specifier.array.format (.connection .doubled) (.list items)).result =
      .ok written := by rfl
  obtain ⟨written', ls, hwritten, hread, hls⟩ :=
    list?_array (q := .doubled) (Or.inr rfl) hitems (Or.inl rfl)
  obtain rfl : written = written' := Except.ok.inj (hformat.symm.trans hwritten)
  refine ⟨Or.inr rfl, hitems, hformat, ?_⟩
  have hitems : ls.map some = [.text "it's\\".toList, .null, .text "', '".toList, .number 1,
      .text "NULL".toList, .number (-12)].map some := hls.symm
  rw [hread, (List.map_inj_right fun _ _ => Option.some.inj).1 hitems]

end Literal
end QueryTemplate
