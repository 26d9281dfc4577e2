import QueryTemplate.Proofs.Acceptance
import QueryTemplate.Proofs.Identifiers
import QueryTemplate.Query.Compile

/-! Which values are names, how these are written, and what is reported of all others. -/
namespace QueryTemplate

namespace Value

/-- Is the value a name, or a list or tuple of names? No name is empty. -/
inductive Names : Value → List Text → Prop
  | one {n : Text} (h : n ≠ []) : Names (.text n) [n]
  | list {ns : List Text} (h : ∀ n ∈ ns, n ≠ []) : Names (.list (ns.map .text)) ns
  | tuple {ns : List Text} (h : ∀ n ∈ ns, n ≠ []) : Names (.tuple (ns.map .text)) ns

/-- What is reported where names are wanted: of a list or tuple the first item that is no name, else
the value itself. -/
def misnamed? : Value → Option Value
  | .list vs | .tuple vs => vs.find? (!·.isName)
  | v => if v.isName then none else some v

theorem isName_iff {v : Value} : v.isName = true ↔ ∃ n : Text, n ≠ [] ∧ v = .text n := by
  unfold isName
  split
  next c s => exact iff_of_true rfl ⟨c :: s, List.cons_ne_nil _ _, rfl⟩
  next hother =>
    refine iff_of_false Bool.false_ne_true ?_
    rintro ⟨n, hn, rfl⟩
    obtain ⟨c, s, rfl⟩ := List.exists_cons_of_ne_nil hn
    exact hother c s rfl

theorem find?_misnamed_eq_none_iff {vs : List Value} :
    vs.find? (!·.isName) = none ↔ ∃ ns : List Text, (∀ n ∈ ns, n ≠ []) ∧ vs = ns.map .text := by
  rw [List.find?_eq_none]
  constructor
  · intro hall
    induction vs with
    | nil => exact ⟨[], fun n hn => absurd hn List.not_mem_nil, rfl⟩
    | cons v vs ih =>
      obtain ⟨hv, hvs⟩ := List.forall_mem_cons.1 hall
      obtain ⟨n, hn, rfl⟩ := isName_iff.1 (by simpa using hv)
      obtain ⟨ns, hns, rfl⟩ := ih hvs
      exact ⟨n :: ns, List.forall_mem_cons.2 ⟨hn, hns⟩, rfl⟩
  · rintro ⟨ns, hns, rfl⟩ v hv
    obtain ⟨n, hn, rfl⟩ := List.mem_map.1 hv
    simpa using isName_iff.2 ⟨n, hns n hn, rfl⟩

theorem misnamed?_eq_none_iff {v : Value} : v.misnamed? = none ↔ ∃ ns, v.Names ns := by
  have hsingle : ∀ {v : Value}, v.isName = true → ∃ ns, v.Names ns := by
    intro v hv
    obtain ⟨n, hn, rfl⟩ := isName_iff.1 hv
    exact ⟨[n], .one hn⟩
  constructor
  · intro h
    unfold misnamed? at h
    split at h
    next vs =>
      obtain ⟨ns, hns, rfl⟩ := find?_misnamed_eq_none_iff.1 h
      exact ⟨ns, .list hns⟩
    next vs =>
      obtain ⟨ns, hns, rfl⟩ := find?_misnamed_eq_none_iff.1 h
      exact ⟨ns, .tuple hns⟩
    next => exact hsingle (by simpa using h)
  · rintro ⟨ns, hnames⟩
    cases hnames with
    | one hn => exact if_pos (isName_iff.2 ⟨_, hn, rfl⟩)
    | list hns => exact find?_misnamed_eq_none_iff.2 ⟨ns, hns, rfl⟩
    | tuple hns => exact find?_misnamed_eq_none_iff.2 ⟨ns, hns, rfl⟩

end Value

namespace Format

variable {e : Escaper} {token : Text} {v w : Value}

theorem itemName_of_not_isName (h : v.isName = false) :
    itemName token v = .refuse (.invalidValue token v.typeName) := by
  unfold itemName
  split
  next => exact absurd h.symm Bool.false_ne_true
  next => rfl

theorem names_of_misnamed {vs : List Value} (h : vs.find? (!·.isName) = some w) :
    names e token vs = .refuse (.invalidValue token w.typeName) := by
  obtain ⟨hw, before, after, rfl, hbefore⟩ := List.find?_eq_some_iff_append.1 h
  have hnamed : ∀ b ∈ before, ∃ s, itemName token b = ⟨[], .ok s⟩ := by
    intro b hb
    exact (decides_itemName token b).ok (by simpa using hbefore b hb)
  have hrefused : itemName token w = .refuse (.invalidValue token w.typeName) :=
    itemName_of_not_isName (by simpa using hw)
  have heach := each_of_error (g := fun _ => []) after hnamed hrefused
  rw [names, heach, Escaping.bind_of_error rfl]
  simp [Escaping.refuse, Escaping.fail]

theorem result_names_of_texts {ns : List Text} (hns : ∀ n ∈ ns, n ≠ []) :
    (names e token (ns.map .text)).result = .ok (joined (ns.map e.quotedName)) := by
  have hall : (ns.map Value.text).all Value.isName = true := by
    rw [List.all_map, List.all_eq_true]
    exact fun n hn => Value.isName_iff.2 ⟨n, hns n hn, rfl⟩
  have hstrings : (ns.map Value.text).filterMap Value.string? = ns := by
    rw [List.filterMap_map]
    exact List.filterMap_some
  rw [names, each_itemName token hall, pure_bind, hstrings, Escaping.result_bind,
    result_each_of_ok e.quotedName fun n _ => result_name e n]
  rfl

theorem identifier_of_misnamed (h : v.misnamed? = some w) :
    identifier e token v = .refuse (.invalidValue token w.typeName) := by
  cases v with
  | list vs | tuple vs => exact names_of_misnamed h
  | text s =>
    cases s with
    | nil =>
      obtain rfl := Option.some.inj h
      rfl
    | cons c s => exact absurd h (by simp [Value.misnamed?, Value.isName])
  | null | skip | bool _ | int _ | float _ | map _ _ | other _ _ _ =>
    obtain rfl := Option.some.inj h
    rfl

theorem result_identifier_eq_ok_iff {text : Text} :
    (identifier e token v).result = .ok text ↔
      ∃ ns, v.Names ns ∧ text = joined (ns.map e.quotedName) := by
  constructor
  · intro h
    obtain ⟨ns, hv, hns, rfl⟩ := result_identifier h
    refine ⟨ns, ?_, rfl⟩
    rcases hv with rfl | rfl | ⟨n, rfl, rfl⟩
    · exact .list hns
    · exact .tuple hns
    · exact .one (hns n List.mem_cons_self)
  · rintro ⟨ns, hnames, rfl⟩
    cases hnames with
    | one hn =>
      obtain ⟨c, s, rfl⟩ := List.exists_cons_of_ne_nil hn
      simp [identifier, result_name, joined]
    | list hns => exact result_names_of_texts hns
    | tuple hns => exact result_names_of_texts hns

theorem joined_quotedName_eq_nil_iff {ns : List Text} :
    joined (ns.map e.quotedName) = [] ↔ ns = [] := by
  cases ns with
  | nil => simp [joined]
  | cons n ns =>
    refine iff_of_false (fun h => ?_) (List.cons_ne_nil _ _)
    cases ns <;> simp [joined, Escaper.quotedName, List.intercalate] at h

end Format

/-- Where names are wanted, names are written, each in backticks and in order, and everything else
is refused; a list or tuple without items passes for names, and nothing is written for it. -/
theorem identifier_names (e : Escaper) (v : Value) :
    let written := Specifier.identifier.format e v
    (∀ text, written.result = .ok text ↔
      ∃ ns, v.Names ns ∧ text = Format.joined (ns.map e.quotedName)) ∧
    ((∀ ns, ¬ v.Names ns) → ∃ w, v.misnamed? = some w ∧
      written = .refuse (.invalidValue Specifier.identifier.token w.typeName)) ∧
    (written.result = .ok [] ↔ v = .list [] ∨ v = .tuple []) := by
  have hwritten : ∀ text, (Specifier.identifier.format e v).result = .ok text ↔
      ∃ ns, v.Names ns ∧ text = Format.joined (ns.map e.quotedName) :=
    fun text => Format.result_identifier_eq_ok_iff
  refine ⟨hwritten, fun hnone => ?_, (hwritten []).trans ?_⟩
  · cases hw : v.misnamed? with
    | none =>
      obtain ⟨ns, hns⟩ := Value.misnamed?_eq_none_iff.1 hw
      exact absurd hns (hnone ns)
    | some w => exact ⟨w, rfl, Format.identifier_of_misnamed hw⟩
  · constructor
    · rintro ⟨ns, hnames, hempty⟩
      obtain rfl := Format.joined_quotedName_eq_nil_iff.1 hempty.symm
      cases hnames with
      | list _ => exact Or.inl rfl
      | tuple _ => exact Or.inr rfl
    · rintro (rfl | rfl)
      · exact ⟨[], @Value.Names.list [] (by simp), rfl⟩
      · exact ⟨[], @Value.Names.tuple [] (by simp), rfl⟩

/-- An empty list of names leaves a hole in the query. -/
theorem identifier_of_empty_list :
    (Specifier.identifier.format .mysql (.list [])).result = .ok [] ∧
      ((⟨.mysql, .standard, true⟩ : Compiler).compile "SELECT ?# FROM t".toList
        [.list []]).result.map (·.query) = .ok "SELECT  FROM t".toList := by decide

end QueryTemplate
