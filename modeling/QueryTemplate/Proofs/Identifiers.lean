import Mathlib.Data.List.Basic
import QueryTemplate.Proofs.Escaping

/-! When a name between backticks reads as one identifier. -/
namespace QueryTemplate
namespace Identifier

/-- Every backtick is one of a pair. -/
def Doubled : Text → Prop
  | [] => True
  | [c] => c ≠ identifierQuote
  | c :: d :: rest =>
    if c = identifierQuote then d = identifierQuote ∧ Doubled rest else Doubled (d :: rest)

instance decidableDoubled : DecidablePred Doubled
  | [] => isTrue trivial
  | [c] => inferInstanceAs (Decidable (c ≠ identifierQuote))
  | c :: d :: rest =>
    have := decidableDoubled rest
    have := decidableDoubled (d :: rest)
    inferInstanceAs (Decidable (if c = identifierQuote then d = identifierQuote ∧ Doubled rest
      else Doubled (d :: rest)))

/-- What follows an identifier of which the opening backtick was read: two backticks stand for one
of its own, a single one ends it. -/
def after? : Text → Option Text
  | [] => none
  | [c] => if c = identifierQuote then some [] else none
  | c :: d :: rest =>
    if c = identifierQuote then if d = identifierQuote then after? rest else some (d :: rest)
    else after? (d :: rest)

/-- What follows the quoted identifier at the head of a text. -/
def rest? : Text → Option Text
  | [] => none
  | c :: text => if c = identifierQuote then after? text else none

/-- A name between two backticks, with each of its own doubled: whoever reads it reads all of it
and nothing else. -/
def Single (quoted : Text) : Prop :=
  (∃ body, quoted = identifierQuote :: body ++ [identifierQuote] ∧ Doubled body) ∧
    ∀ rest : Text, rest.head? ≠ some identifierQuote → rest? (quoted ++ rest) = some rest

theorem doubled_cons_of_ne {c : Char} (hc : c ≠ identifierQuote) (rest : Text) :
    Doubled (c :: rest) ↔ Doubled rest := by
  cases rest with
  | nil => simp [Doubled, hc]
  | cons d rest => rw [Doubled, if_neg hc]

theorem doubled_append_of_not_mem {t : Text} (ht : identifierQuote ∉ t) (rest : Text) :
    Doubled (t ++ rest) ↔ Doubled rest := by
  induction t with
  | nil => rfl
  | cons c t ih =>
    rw [List.mem_cons, not_or] at ht
    rw [List.cons_append, doubled_cons_of_ne (Ne.symm ht.1), ih ht.2]

theorem after?_cons_of_ne {c : Char} (hc : c ≠ identifierQuote) (text : Text) :
    after? (c :: text) = after? text := by
  cases text with
  | nil => simp [after?, hc]
  | cons d rest => rw [after?, if_neg hc]

theorem length_lt_of_after? {text rest : Text} (h : after? text = some rest) :
    rest.length < text.length := by
  fun_induction after? text with
  | case1 => exact absurd h (by simp)
  | case2 => simp [← Option.some.inj h]
  | case3 => exact absurd h (by simp)
  | case4 rest' ih =>
    have := ih h
    simp only [List.length_cons]
    omega
  | case5 => simp [← Option.some.inj h]
  | case6 c d rest' hc ih =>
    have := ih h
    rw [List.length_cons]
    omega

theorem after?_quote {rest : Text} (hrest : rest.head? ≠ some identifierQuote) :
    after? (identifierQuote :: rest) = some rest := by
  cases rest with
  | nil => rfl
  | cons d rest =>
    have hd : d ≠ identifierQuote := fun hd => hrest (by rw [hd]; rfl)
    rw [after?, if_pos rfl, if_neg hd]

/-- Reading ends at the closing backtick just in case all others are doubled. -/
theorem after?_append_iff (body : Text) {rest : Text}
    (hrest : rest.head? ≠ some identifierQuote) :
    after? (body ++ identifierQuote :: rest) = some rest ↔ Doubled body := by
  fun_induction Doubled body with
  | case1 => exact iff_of_true (after?_quote hrest) trivial
  | case2 c =>
    by_cases hc : c = identifierQuote
    · have hshort : after? rest ≠ some rest := fun h => Nat.lt_irrefl _ (length_lt_of_after? h)
      simp [after?, hc, hshort]
    · rw [List.singleton_append, after?_cons_of_ne hc]
      exact iff_of_true (after?_quote hrest) hc
  | case3 d body ih =>
    by_cases hd : d = identifierQuote
    · rw [List.cons_append, List.cons_append, after?, if_pos rfl, if_pos hd, ih]
      exact (and_iff_right hd).symm
    · rw [List.cons_append, List.cons_append, after?, if_pos rfl, if_neg hd]
      refine iff_of_false (fun h => ?_) fun h => hd h.1
      have hlen := congrArg List.length (Option.some.inj h)
      simp at hlen
      omega
  | case4 c d body hc ih =>
    rw [List.cons_append, after?_cons_of_ne hc]
    exact ih

theorem single_iff (body : Text) :
    Single (identifierQuote :: body ++ [identifierQuote]) ↔ Doubled body := by
  constructor
  · rintro ⟨⟨body', h, hd⟩, -⟩
    have hbody : body = body' := List.append_cancel_right (List.cons.inj h).2
    rwa [hbody]
  · intro hd
    refine ⟨⟨body, rfl, hd⟩, fun rest hrest => ?_⟩
    have hread := (after?_append_iff body hrest).2 hd
    rw [List.cons_append, List.cons_append, rest?, if_pos rfl, List.append_assoc]
    exact hread

/-- Escaping is meant for literals: it leaves backticks as they are and adds none. -/
theorem doubled_escape (q : Quoting) (name : Text) : Doubled (q.escape name) ↔ Doubled name := by
  have hquote : q.escapeChar identifierQuote = [identifierQuote] := by cases q <;> rfl
  have hother : ∀ c, c ≠ identifierQuote → identifierQuote ∉ q.escapeChar c := by
    intro c hc h
    rcases Quoting.mem_escapeChar h with h | h
    · exact hc h.symm
    · exact absurd h (by decide)
  fun_induction Doubled name with
  | case1 => exact Iff.rfl
  | case2 c =>
    by_cases hc : c = identifierQuote
    · rw [hc, Quoting.escape_cons, hquote]
      exact iff_of_false (fun h => h rfl) fun h => h rfl
    · rw [Quoting.escape_cons, doubled_append_of_not_mem (hother c hc)]
      exact iff_of_true trivial hc
  | case3 d rest ih =>
    rw [Quoting.escape_cons, hquote, Quoting.escape_cons]
    by_cases hd : d = identifierQuote
    · rw [hd, hquote, List.singleton_append, List.singleton_append, Doubled, if_pos rfl]
      exact and_congr_right fun _ => ih
    -- whatever `d` is escaped to, it does not begin with a backtick
    · obtain ⟨c, more, hmore⟩ := List.exists_cons_of_ne_nil (q.escapeChar_ne_nil d)
      have hc : c ≠ identifierQuote := fun hc =>
        hother d hd (by rw [hmore, hc]; exact List.mem_cons_self)
      rw [hmore]
      simp [Doubled, hc, hd]
  | case4 c d rest hc ih =>
    rw [Quoting.escape_cons, doubled_append_of_not_mem (hother c hc)]
    exact ih

end Identifier

/-- A name as it is written: escaped, between backticks. -/
def Escaper.quotedName (e : Escaper) (name : Text) : Text :=
  identifierQuote :: e.escape name ++ [identifierQuote]

/-- The escapers that come with the compiler: one for literals of MySQL, and those of a connection
in either of its modes. -/
def Escaper.builtIn : List Escaper := [.mysql, .connection .backslash, .connection .doubled]

theorem Escaper.exists_quoting {e : Escaper} (he : e ∈ builtIn) :
    ∃ q : Quoting, e.escape = q.escape := by
  simp only [builtIn, List.mem_cons, List.not_mem_nil, or_false] at he
  rcases he with rfl | rfl | rfl
  · exact ⟨.backslash, rfl⟩
  · exact ⟨.backslash, rfl⟩
  · exact ⟨.doubled, rfl⟩

theorem Identifier.single_quotedName_iff {e : Escaper} (he : e ∈ Escaper.builtIn) (name : Text) :
    Single (e.quotedName name) ↔ Doubled name := by
  obtain ⟨q, hq⟩ := Escaper.exists_quoting he
  rw [Escaper.quotedName, single_iff, hq, doubled_escape]

namespace Format

variable {e : Escaper} {token : Text}

theorem result_name (e : Escaper) (s : Text) : (name e s).result = .ok (e.quotedName s) := rfl

theorem itemName_eq_ok {v : Value} {s : Text} (h : (itemName token v).result = .ok s) :
    v = .text s ∧ s ≠ [] := by
  unfold itemName at h
  split at h
  next c rest =>
    obtain rfl := Except.ok.inj h
    exact ⟨rfl, List.cons_ne_nil _ _⟩
  next => exact absurd h (by simp [Escaping.refuse])

theorem result_names {items : List Value} {text : Text}
    (h : (names e token items).result = .ok text) :
    ∃ ns : List Text, items = ns.map .text ∧ (∀ n ∈ ns, n ≠ []) ∧
      text = joined (ns.map e.quotedName) := by
  simp only [names, Escaping.result_bind, bind_eq_ok_iff, Escaping.result_pure,
    Except.ok.injEq] at h
  obtain ⟨ns, hns, parts, hparts, rfl⟩ := h
  rw [result_each_of_ok e.quotedName fun n _ => result_name e n] at hparts
  obtain rfl := Except.ok.inj hparts
  rw [result_each_eq_ok] at hns
  have hitems : items = ns.map .text ∧ ∀ n ∈ ns, n ≠ [] := by
    clear hparts
    induction hns with
    | nil => exact ⟨rfl, fun n hn => absurd hn List.not_mem_nil⟩
    | cons hv _ ih =>
      obtain ⟨rfl, hne⟩ := itemName_eq_ok hv
      exact ⟨by rw [List.map_cons, ← ih.1], List.forall_mem_cons.2 ⟨hne, ih.2⟩⟩
  exact ⟨ns, hitems.1, hitems.2, rfl⟩

/-- The names in a value that is accepted where identifiers are wanted. -/
theorem result_identifier {v : Value} {text : Text}
    (h : (identifier e token v).result = .ok text) :
    ∃ ns : List Text, (v = .list (ns.map .text) ∨ v = .tuple (ns.map .text) ∨
        ∃ n, ns = [n] ∧ v = .text n) ∧ (∀ n ∈ ns, n ≠ []) ∧
      text = joined (ns.map e.quotedName) := by
  unfold identifier at h
  split at h
  next items =>
    obtain ⟨ns, rfl, hne, ht⟩ := result_names h
    exact ⟨ns, Or.inl rfl, hne, ht⟩
  next items =>
    obtain ⟨ns, rfl, hne, ht⟩ := result_names h
    exact ⟨ns, Or.inr (Or.inl rfl), hne, ht⟩
  next c rest =>
    rw [result_name] at h
    obtain rfl := Except.ok.inj h
    exact ⟨[c :: rest], Or.inr (Or.inr ⟨_, rfl, rfl⟩), by simp, by simp [joined]⟩
  next => exact absurd h (by simp [Escaping.refuse])

/-- An assignment as it is written, given the text of its value. -/
def assigned (e : Escaper) (entry : Key × Value) (value : Text) : Text :=
  e.quotedName entry.1.write ++ [' ', '=', ' '] ++ value

theorem result_assignment {entry : Key × Value} {part : Text}
    (h : (assignment e token entry).result = .ok part) :
    ∃ value, (scalar e token entry.2).result = .ok value ∧ part = assigned e entry value := by
  simp only [assignment, Escaping.result_bind, bind_eq_ok_iff, Escaping.result_pure,
    result_name, Except.ok.injEq] at h
  obtain ⟨column, rfl, value, hvalue, rfl⟩ := h
  exact ⟨value, hvalue, rfl⟩

theorem result_assignments {entries : List (Key × Value)} {text : Text}
    (h : (assignments e token entries).result = .ok text) :
    ∃ values : List Text,
      List.Forall₂ (fun entry value => (scalar e token entry.2).result = .ok value) entries
        values ∧
      text = joined (List.zipWith (assigned e) entries values) := by
  simp only [assignments, Escaping.result_bind, bind_eq_ok_iff, Escaping.result_pure,
    Except.ok.injEq] at h
  obtain ⟨parts, hparts, rfl⟩ := h
  have hvalues : ∃ values : List Text,
      List.Forall₂ (fun entry value => (scalar e token entry.2).result = .ok value) entries
        values ∧
      parts = List.zipWith (assigned e) entries values := by
    rw [result_each_eq_ok] at hparts
    induction hparts with
    | nil => exact ⟨[], .nil, rfl⟩
    | cons hpart _ ih =>
      obtain ⟨value, hvalue, rfl⟩ := result_assignment hpart
      obtain ⟨values, hrest, rfl⟩ := ih
      exact ⟨value :: values, .cons hvalue hrest, rfl⟩
  obtain ⟨values, hvalues, rfl⟩ := hvalues
  exact ⟨values, hvalues, rfl⟩

end Format

/-- A written name is one identifier just in case its own backticks are doubled already: names
that are accepted as identifiers, and columns of a mapping that is written as assignments. -/
theorem written_names_single_iff {e : Escaper} (he : e ∈ Escaper.builtIn) :
    (∀ v text, (Specifier.identifier.format e v).result = .ok text →
      ∃ ns : List Text, (v = .list (ns.map .text) ∨ v = .tuple (ns.map .text) ∨
          ∃ n, ns = [n] ∧ v = .text n) ∧ (∀ n ∈ ns, n ≠ []) ∧
        text = Format.joined (ns.map e.quotedName) ∧
        ∀ n ∈ ns, Identifier.Single (e.quotedName n) ↔ Identifier.Doubled n) ∧
    (∀ typeName entries text, ArrayShape.ofKeys (entries.map (·.1)) = .map →
      (Specifier.array.format e (.map typeName entries)).result = .ok text →
      ∃ values : List Text,
        List.Forall₂ (fun entry value =>
          (Format.scalar e Specifier.array.token entry.2).result = .ok value) entries values ∧
        text = Format.joined (List.zipWith (Format.assigned e) entries values) ∧
        ∀ entry ∈ entries, Identifier.Single (e.quotedName entry.1.write) ↔
          Identifier.Doubled entry.1.write) := by
  constructor
  · intro v text h
    obtain ⟨ns, hv, hne, ht⟩ := Format.result_identifier h
    exact ⟨ns, hv, hne, ht, fun n _ => Identifier.single_quotedName_iff he n⟩
  · intro typeName entries text hshape h
    change (Format.array e Specifier.array.token (.map typeName entries)).result = .ok text at h
    rw [Format.array, hshape] at h
    obtain ⟨values, hvalues, ht⟩ := Format.result_assignments h
    exact ⟨values, hvalues, ht, fun entry _ => Identifier.single_quotedName_iff he _⟩

/-- Of two columns the one with a single backtick ends early. -/
theorem written_names_single_iff_columns :
    Escaper.mysql ∈ Escaper.builtIn ∧
      ArrayShape.ofKeys [.text "a\x60\x60b".toList, .text "c\x60d".toList] = .map ∧
      (Specifier.array.format .mysql (.map "dict" [(.text "a\x60\x60b".toList, .int 1),
          (.text "c\x60d".toList, .null)])).result =
        .ok "\x60a\x60\x60b\x60 = 1, \x60c\x60d\x60 = NULL".toList ∧
      Identifier.Single "\x60a\x60\x60b\x60".toList ∧
      ¬ Identifier.Single "\x60c\x60d\x60".toList := by
  have he : Escaper.mysql ∈ Escaper.builtIn := List.mem_cons_self
  have hshape : ArrayShape.ofKeys [.text "a\x60\x60b".toList, .text "c\x60d".toList] = .map := by
    decide
  have ht : (Specifier.array.format .mysql (.map "dict" [(.text "a\x60\x60b".toList, .int 1),
      (.text "c\x60d".toList, .null)])).result =
    .ok "\x60a\x60\x60b\x60 = 1, \x60c\x60d\x60 = NULL".toList := by decide
  obtain ⟨-, -, -, hiff⟩ := (written_names_single_iff he).2 "dict"
    [(.text "a\x60\x60b".toList, .int 1), (.text "c\x60d".toList, .null)] _ hshape ht
  refine ⟨he, hshape, ht, ?_, fun h => ?_⟩
  · exact (hiff _ List.mem_cons_self).2 (by decide)
  · exact absurd ((hiff _ (List.mem_cons_of_mem _ List.mem_cons_self)).1 h) (by decide)

/-- A backtick in a name ends the identifier, and what follows it is read as part of the query. -/
theorem written_name_not_single :
    (Specifier.identifier.format .mysql (.text "a\x60b".toList)).result =
        .ok "\x60a\x60b\x60".toList ∧
      ¬ Identifier.Single "\x60a\x60b\x60".toList ∧
      Identifier.rest? "\x60a\x60b\x60".toList = some "b\x60".toList := by
  refine ⟨by decide, fun h => ?_, by decide⟩
  have hd : Identifier.Doubled "a\x60b".toList := (Identifier.single_iff _).1 h
  exact absurd hd (by decide)

end QueryTemplate
