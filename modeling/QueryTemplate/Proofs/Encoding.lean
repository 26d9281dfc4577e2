import QueryTemplate.Proofs.Outcomes
import QueryTemplate.Query.Offered
import QueryTemplate.Text.Surrogate

/-! Texts that can be written. The messages of errors are made of parts of the template, of tokens, of
names of types and of numbers, so that no surrogate of an argument gets into them. -/
namespace QueryTemplate

namespace Text

variable {text : Text}

theorem isEncodable_iff : text.isEncodable = true ↔ ∀ c ∈ text, isStandIn c = false := by
  simp [isEncodable]

@[simp] theorem isEncodable_nil : isEncodable [] = true := rfl

@[simp] theorem isEncodable_cons (c : Char) (rest : Text) :
    isEncodable (c :: rest) = (!isStandIn c && isEncodable rest) := rfl

@[simp] theorem isEncodable_append (a b : Text) :
    isEncodable (a ++ b) = (isEncodable a && isEncodable b) := List.all_append

theorem isEncodable_of_subset {part : Text} (h : text.isEncodable = true) (hpart : part ⊆ text) :
    part.isEncodable = true :=
  isEncodable_iff.2 fun _ hc => isEncodable_iff.1 h _ (hpart hc)

theorem isEncodable_string_append {a b : String} (ha : isEncodable a.toList = true)
    (hb : isEncodable b.toList = true) : isEncodable (a ++ b).toList = true := by
  rw [String.toList_append, isEncodable_append, ha, hb]
  rfl

theorem isEncodable_framed {before part after : String} (hbefore : isEncodable before.toList = true)
    (hpart : isEncodable part.toList = true) (hafter : isEncodable after.toList = true) :
    isEncodable (before ++ part ++ after).toList = true :=
  isEncodable_string_append (isEncodable_string_append hbefore hpart) hafter

theorem isStandIn_of_lt {c : Char} (h : c.toNat < standInOffset) : isStandIn c = false := by
  simp [isStandIn, Nat.not_le.2 h]

theorem isStandIn_of_isDigit {c : Char} (h : c.isDigit = true) : isStandIn c = false := by
  rw [Char.isDigit_iff_toNat] at h
  exact isStandIn_of_lt (Nat.lt_of_le_of_lt h.2 (by decide))

theorem isStandIn_of_isAlpha {c : Char} (h : c.isAlpha = true) : isStandIn c = false := by
  have hbound : c.toNat ≤ 'z'.toNat := by
    rcases Bool.or_eq_true_iff.1 h with hupper | hlower
    · have hle : c.val ≤ 'Z'.val := (of_decide_eq_true hupper).2
      exact Nat.le_trans (UInt32.le_iff_toNat_le.1 hle) (by decide)
    · have hle : c.val ≤ 'z'.val := of_decide_eq_true (Bool.and_eq_true_iff.1 hlower).2
      exact UInt32.le_iff_toNat_le.1 hle
  exact isStandIn_of_lt (Nat.lt_of_le_of_lt hbound (by decide))

theorem isEncodable_toString (n : Nat) : isEncodable (toString n).toList = true := by
  refine isEncodable_iff.2 fun c hc => isStandIn_of_isDigit ?_
  rw [Nat.toString_eq_repr, Nat.toList_repr] at hc
  exact Nat.isDigit_of_mem_toDigits (by decide) (by decide) hc

theorem isEncodable_intercalate {separator : Text} {parts : List Text}
    (hseparator : separator.isEncodable = true) (h : ∀ part ∈ parts, part.isEncodable = true) :
    isEncodable (separator.intercalate parts) = true := by
  induction parts with
  | nil => rfl
  | cons part rest ih =>
    have hpart := h part List.mem_cons_self
    have hrest := ih fun p hp => h p (List.mem_cons_of_mem _ hp)
    cases rest with
    | nil => rwa [List.intercalate_singleton]
    | cons next rest =>
      rw [List.intercalate_cons_cons, isEncodable_append, isEncodable_append, hpart, hseparator, hrest]
      rfl

end Text

/-- The values that a value holds. -/
def Value.held : Value → List Value
  | .list vs | .tuple vs => vs
  | .map _ entries => entries.map (·.2)
  | _ => []

namespace Format

variable {e : Escaper} {s : Specifier} {token t : Text} {typeName : String} {v : Value}

theorem error_of_bind_pure {α β : Type} {x : Escaping α} {f : α → β} {error : CompileError}
    (h : (x >>= fun a => pure (f a) : Escaping β).result = .error error) :
    x.result = .error error := by
  rw [Escaping.result_bind] at h
  cases hx : x.result with
  | ok a =>
    rw [hx] at h
    cases h
  | error error' =>
    rw [hx] at h
    exact congrArg Except.error (Except.error.inj h)

theorem exists_of_each_error {α β : Type} {f : α → Escaping β} {l : List α} {error : CompileError}
    (h : (each f l).result = .error error) : ∃ a ∈ l, (f a).result = .error error := by
  rcases exists_first_error f l with hall | ⟨before, a, after, e, rfl, hbefore, ha⟩
  · obtain ⟨bs, hbs⟩ := exists_result_each hall
    exact absurd (h.symm.trans hbs) (by simp)
  · have hfirst := result_each_of_error after hbefore ha
    obtain rfl := Except.error.inj (h.symm.trans hfirst)
    exact ⟨a, by simp, ha⟩

theorem typeName_of_scalar
    (h : (scalar e token v).result = .error (.refusal (.invalidType typeName t))) :
    v.typeName = typeName := by
  cases v with
  | null | skip | bool _ | int _ => exact absurd h (by simp [scalar])
  | text s => exact absurd h (by simp [scalar, literal, Escaping.escape])
  | float x =>
    simp only [scalar] at h
    split_ifs at h
    cases h
  | list _ | tuple _ | map _ _ | other _ _ _ =>
    cases h
    rfl

theorem typeName_of_items {vs : List Value}
    (h : (items e token vs).result = .error (.refusal (.invalidType typeName t))) :
    ∃ w ∈ vs, w.typeName = typeName := by
  obtain ⟨w, hw, herror⟩ := exists_of_each_error (error_of_bind_pure h)
  exact ⟨w, hw, typeName_of_scalar herror⟩

theorem typeName_of_assignments {entries : List (Key × Value)}
    (h : (assignments e token entries).result = .error (.refusal (.invalidType typeName t))) :
    ∃ w ∈ entries.map (·.2), w.typeName = typeName := by
  obtain ⟨entry, hentry, herror⟩ := exists_of_each_error (error_of_bind_pure h)
  have hname : (name e entry.1.write).result =
      .ok (identifierQuote :: e.escape entry.1.write ++ [identifierQuote]) := rfl
  rw [assignment, Escaping.result_bind, hname] at herror
  exact ⟨entry.2, List.mem_map_of_mem hentry, typeName_of_scalar (error_of_bind_pure herror)⟩

/-- No item of a list of names is refused for its type alone. -/
theorem names_ne_invalidType {vs : List Value} :
    (names e token vs).result ≠ .error (.refusal (.invalidType typeName t)) := by
  intro h
  rw [names, Escaping.result_bind] at h
  cases hs : (each (itemName token) vs).result with
  | error error =>
    rw [hs] at h
    obtain rfl := Except.error.inj h
    obtain ⟨w, -, hw⟩ := exists_of_each_error hs
    unfold itemName at hw
    split at hw <;> cases hw
  | ok ss =>
    rw [hs] at h
    obtain ⟨s, -, hname⟩ := exists_of_each_error (error_of_bind_pure h)
    cases hname

theorem typeName_of_array
    (h : (array e token v).result = .error (.refusal (.invalidType typeName t))) :
    ∃ w ∈ v.held, w.typeName = typeName := by
  unfold array at h
  split at h
  · exact typeName_of_items h
  · exact typeName_of_items h
  · split at h
    · exact typeName_of_items h
    · exact typeName_of_assignments h
  · cases h

/-- The type that is told of as taken nowhere is that of the value or of one that it holds. -/
theorem typeName_of_format
    (h : (s.format e v).result = .error (.refusal (.invalidType typeName t))) :
    ∃ w ∈ v :: v.held, w.typeName = typeName := by
  unfold Specifier.format at h
  split at h
  next =>
    unfold integer at h
    split at h
    · cases h
    · cases h
    · split at h <;> cases h
  next =>
    unfold float at h
    split at h <;> split at h <;> cases h
  next =>
    obtain ⟨w, hw, htype⟩ := typeName_of_array h
    exact ⟨w, List.mem_cons_of_mem _ hw, htype⟩
  next =>
    unfold identifier at h
    split at h
    · exact absurd h names_ne_invalidType
    · exact absurd h names_ne_invalidType
    · cases h
    · cases h
  next => exact ⟨v, List.mem_cons_self, typeName_of_scalar h⟩
  next => cases h

end Format

/-- Can the name of a type be written, of a value and of those that it holds? -/
def Value.Plain (v : Value) : Prop :=
  ∀ w ∈ v :: v.held, Text.isEncodable w.typeName.toList = true

namespace Json

theorem isEncodable_typeName (j : Json) : Text.isEncodable j.toValue.typeName.toList = true := by
  cases j <;> simp only [toValue, Value.typeName] <;> decide

theorem exists_of_mem_valuesOf {js : List Json} {v : Value} (h : v ∈ valuesOf js) :
    ∃ j ∈ js, j.toValue = v := by
  induction js with
  | nil => cases h
  | cons j js ih =>
    rcases List.mem_cons.1 h with rfl | h
    · exact ⟨j, List.mem_cons_self, rfl⟩
    · obtain ⟨j', hj', hv⟩ := ih h
      exact ⟨j', List.mem_cons_of_mem _ hj', hv⟩

theorem exists_of_mem_entriesOf {fields : List (String × Json)} {v : Value}
    (h : v ∈ (entriesOf fields).map (·.2)) : ∃ j : Json, j.toValue = v := by
  induction fields with
  | nil => cases h
  | cons field fields ih =>
    rcases List.mem_cons.1 h with rfl | h
    · exact ⟨field.2, rfl⟩
    · exact ih h

/-- A document has the types of data all the way down. -/
theorem plain_toValue (j : Json) : j.toValue.Plain := by
  intro w hw
  have hdocument : ∃ j' : Json, j'.toValue = w := by
    rcases List.mem_cons.1 hw with rfl | hw
    · exact ⟨j, rfl⟩
    · cases j with
      | array items =>
        obtain ⟨j', -, hj'⟩ := exists_of_mem_valuesOf hw
        exact ⟨j', hj'⟩
      | object fields => exact exists_of_mem_entriesOf hw
      | null | bool _ | int _ | float _ | string _ => cases hw
  obtain ⟨j', rfl⟩ := hdocument
  exact j'.isEncodable_typeName

theorem plain_of_mem_valuesOf {js : List Json} : ∀ v ∈ valuesOf js, v.Plain := by
  intro v hv
  obtain ⟨j, -, rfl⟩ := exists_of_mem_valuesOf hv
  exact j.plain_toValue

end Json

namespace SpecifierTable

theorem isEncodable_of_mem_unknown (t : SpecifierTable) {template token : Text}
    (htemplate : template.isEncodable = true) (h : token ∈ t.unknown template) :
    token.isEncodable = true := by
  rw [unknown, List.mem_eraseDups, List.mem_filter, Candidate.all, List.mem_map] at h
  obtain ⟨⟨s, -, rfl⟩, -⟩ := h
  exact Text.isEncodable_of_subset htemplate
    (List.Subset.trans (List.take_subset _ _) (List.drop_subset _ _))

theorem isEncodable_token_of_mem_scan {template : Text} {p : Placeholder}
    (hp : p ∈ standard.scan template) : p.token.isEncodable = true := by
  have hstandard : ∀ s ∈ standard.specifiers, s.token.isEncodable = true := by decide
  obtain ⟨s, hs, htoken, -⟩ := exists_standard_of_mem_scan hp
  exact htoken ▸ hstandard s hs

theorem exists_of_formatted {t : SpecifierTable} {e : Escaper} {args : List Value} {p : Placeholder}
    {r : Refusal} (h : (t.formatted e args p).result = .error (.refusal r)) :
    ∃ s : Specifier, ∃ v ∈ args, (s.format e v).result = .error (.refusal r) := by
  unfold formatted at h
  split at h
  next s v _ hv => exact ⟨s, v, List.mem_of_getElem? hv, h⟩
  next => cases h
  next => cases h

end SpecifierTable

namespace Compiler

open SpecifierTable (standard)

variable {e : Escaper} {strict : Bool} {template : Text} {args : List Value} {r : Refusal}

/-- A refusal tells nothing of the arguments but the names of their types. -/
theorem isEncodable_message (htemplate : template.isEncodable = true)
    (hargs : ∀ v ∈ args, v.Plain)
    (h : ((⟨e, standard, strict⟩ : Compiler).compile template args).result = .error (.refusal r)) :
    Text.isEncodable r.message.toList = true := by
  cases compile_ends e strict template args with
  | unknown _ _ hresult =>
    obtain rfl := CompileError.refusal.inj (Except.error.inj (hresult.symm.trans h))
    have htokens : Text.isEncodable (tokenList (standard.unknown template)).toList = true := by
      rw [tokenList, String.toList_intercalate, List.map_map]
      refine Text.isEncodable_intercalate (by decide) fun part hpart => ?_
      obtain ⟨token, htoken, rfl⟩ := List.mem_map.1 hpart
      simpa using standard.isEncodable_of_mem_unknown htemplate htoken
    exact Text.isEncodable_framed (by decide) htokens (by decide)
  | miscounted _ _ _ hresult =>
    obtain rfl := CompileError.refusal.inj (Except.error.inj (hresult.symm.trans h))
    have hexpected : Text.isEncodable (toString (standard.scan template).length).toList = true :=
      Text.isEncodable_toString _
    exact Text.isEncodable_string_append (Text.isEncodable_framed (by decide) hexpected (by decide))
      (Text.isEncodable_toString _)
  | compiled _ _ _ _ r' hresult => exact absurd (h.symm.trans hresult) (by simp)
  | refused _ _ before after p hvisits _ _ _ r' hr hformatted hresult =>
    obtain rfl := CompileError.refusal.inj (Except.error.inj (hresult.symm.trans h))
    cases r' with
    | invalidValue token typeName =>
      obtain rfl : token = p.token := hr
      have hscan := SpecifierTable.mem_scan_of_visits hvisits p (by simp)
      have hplain : Text.isEncodable (String.ofList p.token).toList = true := by
        rw [String.toList_ofList]
        exact SpecifierTable.isEncodable_token_of_mem_scan hscan
      exact Text.isEncodable_framed (by decide) hplain (by decide)
    | invalidType typeName token =>
      obtain ⟨s, v, hv, herror⟩ := SpecifierTable.exists_of_formatted hformatted
      obtain ⟨w, hw, rfl⟩ := Format.typeName_of_format herror
      exact Text.isEncodable_framed (by decide) (hargs v hv w hw) (by decide)
    | unknownSpecifiers tokens t => exact hr.elim
    | argumentCount expected received t => exact hr.elim

end Compiler

namespace Escaper

/-- Only the name that is asked for gets into the message. -/
theorem isEncodable_message {name : String} {error : EscaperError} (h : named name = .error error)
    (hname : Text.isEncodable name.toList = true) : Text.isEncodable error.message.toList = true := by
  have hnames : Text.isEncodable (quotedList offered.names).toList = true := by decide +kernel
  unfold named ask at h
  split at h
  · obtain rfl := Except.error.inj h
    exact Text.isEncodable_string_append (Text.isEncodable_framed (by decide) hname (by decide)) hnames
  · split at h
    · cases h
    · obtain rfl := Except.error.inj h
      exact Text.isEncodable_string_append (Text.isEncodable_framed (by decide) hname (by decide))
        (by decide +kernel)

end Escaper
end QueryTemplate
