import QueryTemplate.Proofs.Passes
import QueryTemplate.Proofs.Scanning

/-! The passes over a template put every argument in the place of its own placeholder. -/
namespace QueryTemplate

namespace Segment

theorem holes_splitFrom (template : Text) (cursor : Int) (ps : List Placeholder) :
    holes (splitFrom template cursor ps) = ps := by
  induction ps generalizing cursor with
  | nil =>
    rw [splitFrom]
    split_ifs <;> rfl
  | cons p rest ih =>
    rw [splitFrom, holes_append, holes_placeholder, ih]
    split_ifs <;> rfl

theorem holes_split (template : Text) (ps : List Placeholder) : holes (split template ps) = ps :=
  holes_splitFrom template 0 ps

/-- A literal segment adds its text; there is none for a text that is empty. -/
theorem joinFrom_literal {c : Prop} [Decidable c] {t : Text} (ht : ¬ c → t = [])
    {rest : List Segment} {text : Text} (hrest : ∀ i, joinFrom i rest = .ok text) (i : Nat) :
    joinFrom i ((if c then [.text t] else []) ++ rest) = .ok (t ++ text) := by
  split_ifs with hc
  · rw [List.singleton_append, joinFrom, hrest]
    rfl
  · rw [ht hc]
    exact hrest i

theorem map_fillWith_literal {c : Prop} [Decidable c] (w : Placeholder → Text) (t : Text) :
    (if c then [Segment.text t] else []).map (fillWith w) = if c then [.text t] else [] := by
  split_ifs <;> rfl

theorem joinFrom_text {t text : Text} {rest : List Segment}
    (hrest : ∀ i, joinFrom i rest = .ok text) (i : Nat) :
    joinFrom i (.text t :: rest) = .ok (t ++ text) := by
  rw [joinFrom, hrest]
  rfl

end Segment

namespace Placeholder

/-- Spans that are not empty, lie inside the text and follow one another. -/
def Separate (text : Text) (ps : List Placeholder) : Prop :=
  (∀ p ∈ ps, p.start = p.span.start ∧ p.stop = p.span.stop ∧ p.span.start < p.span.stop ∧
    p.span.stop ≤ text.length) ∧ ps.Pairwise fun p q => p.span.stop ≤ q.span.start

theorem separate_scan {t : SpecifierTable} (ht : t.matcher.Single) (template : Text) :
    Separate template (t.scan template) := by
  refine ⟨fun p hp => ?_, SpecifierTable.pairwise_span_scanBy ht.proper _ template⟩
  obtain ⟨hspan, hstart, hstop, -⟩ := SpecifierTable.mem_scan hp
  exact ⟨hstart, hstop, ht.start_lt_stop hspan, Matcher.stop_le_of_mem_spans ht.proper hspan⟩

/-- The edits that put a text in the place of each placeholder. -/
def edits (w : Placeholder → Text) (ps : List Placeholder) : List Edit :=
  ps.map fun p => (p.span, w p)

variable {template : Text} {ps : List Placeholder} {w : Placeholder → Text}

/-- Cutting a text at placeholders, filling them and joining the segments is editing their spans. -/
theorem joinFrom_splitFrom (h : Separate template ps) {cursor : Nat}
    (hc : cursor ≤ template.length) (hcur : ∀ p ∈ ps, cursor ≤ p.span.start) (i : Nat) :
    Segment.joinFrom i ((Segment.splitFrom template cursor ps).map (Segment.fillWith w)) =
      .ok (template.editedFrom (edits w ps) cursor template.length) := by
  induction ps generalizing cursor i with
  | nil =>
    have hslice : template.slice cursor template.length =
        (template.drop cursor).take (template.length - cursor) :=
      Text.slice_natCast _ _ _ hc (Nat.le_refl _)
    have hnone : ¬ (cursor : Int) < template.length →
        (template.drop cursor).take (template.length - cursor) = [] := by
      intro hlt
      rw [List.drop_eq_nil_of_le (by omega), List.take_nil]
    rw [Segment.splitFrom, hslice, edits, List.map_nil, Segment.map_fillWith_literal,
      Text.editedFrom_plain hc (Nat.le_refl _) fun k _ _ e he => absurd he List.not_mem_nil,
      ← List.append_nil (ite _ _ _), Segment.joinFrom_literal hnone (fun _ => rfl),
      List.append_nil]
  | cons p rest ih =>
    obtain ⟨hspans, hord⟩ := h
    obtain ⟨⟨hstart, hstop, hlt, hle⟩, hspans⟩ := List.forall_mem_cons.1 hspans
    obtain ⟨hafter, hord⟩ := List.pairwise_cons.1 hord
    have hp : cursor ≤ p.span.start := hcur p List.mem_cons_self
    have hslice : template.slice cursor p.span.start =
        (template.drop cursor).take (p.span.start - cursor) :=
      Text.slice_natCast _ _ _ hp (by omega)
    have hnone : ¬ (cursor : Int) < p.span.start →
        (template.drop cursor).take (p.span.start - cursor) = [] := by
      intro hlt
      rw [(by omega : p.span.start - cursor = 0), List.take_zero]
    have hrest := ih ⟨hspans, hord⟩ hle hafter
    have hbefore : template.editedFrom (edits w rest) cursor p.span.start =
        (template.drop cursor).take (p.span.start - cursor) := by
      refine Text.editedFrom_before hp (by omega) fun e he => ?_
      obtain ⟨q, hq, rfl⟩ := List.mem_map.1 he
      exact Nat.le_trans (Nat.le_of_lt hlt) (hafter q hq)
    have hsplit : template.editedFrom (edits w (p :: rest)) cursor template.length =
        (template.drop cursor).take (p.span.start - cursor) ++
          (w p ++ template.editedFrom (edits w rest) p.span.stop template.length) := by
      rw [← List.append_assoc, ← hbefore]
      exact Text.editedFrom_cons hp hlt hle
    rw [Segment.splitFrom, hstart, hstop, hslice, List.map_append, Segment.map_fillWith_literal,
      List.map_cons, Segment.fillWith, hsplit]
    exact Segment.joinFrom_literal hnone (Segment.joinFrom_text hrest) i

theorem join_split (h : Separate template ps) :
    Segment.join ((Segment.split template ps).map (Segment.fillWith w)) =
      .ok (template.edited (edits w ps)) :=
  joinFrom_splitFrom h (Nat.zero_le _) (fun _ _ => Nat.zero_le _) 0

end Placeholder

namespace SpecifierTable

/-- How the argument of a placeholder is written, or why it is refused. -/
def formatted (t : SpecifierTable) (e : Escaper) (args : List Value) (p : Placeholder) :
    Escaping Text :=
  match t.get? p.token, args[p.position]? with
  | some s, some v => s.format e v
  | some _, none => .fail (.defect .missingArgument)
  | none, _ => .fail (.defect .unhandledKind)

variable {e : Escaper} {strict : Bool} {template : Text} {args : List Value} {qs : Queues}
  {p : Placeholder}

theorem enqueue_of_bind {ps : List Placeholder}
    (h : bindArguments strict template ps args = .ok qs) :
    enqueue args ps [] = .ok qs := by
  unfold bindArguments at h
  split_ifs at h
  exact h

theorem formatted_eq (hp : p ∈ standard.scan template) {ps : List Placeholder} (hps : p ∈ ps)
    (h : enqueue args ps [] = .ok qs) :
    ∃ s ∈ standard.specifiers, s.token = p.token ∧
      args[p.position]? = some (argumentOf args p) ∧
      standard.formatted e args p = s.format e (argumentOf args p) ∧
      formatBy e (argumentOf args) standard.specifiers p = s.format e (argumentOf args p) := by
  obtain ⟨s, hs, htoken, hget, hfind⟩ := exists_standard_of_mem_scan hp
  have harg := getElem?_of_enqueue h hps
  exact ⟨s, hs, htoken, harg, by rw [formatted, hget, harg], by rw [formatBy, hfind]⟩

theorem feeds_split {ps : List Placeholder} (h : enqueue args ps [] = .ok qs) :
    Feeds (argumentOf args) qs (Segment.split template ps) := by
  intro token
  rw [Segment.holes_split, waiting_enqueue h]
  rfl

theorem result_substitute {t : SpecifierTable} {ps : List Placeholder}
    (h : enqueue args ps [] = .ok qs) :
    (t.substitute e template ps qs).2.result =
      (passes e (argumentOf args) t.specifiers (Segment.split template ps)).result >>=
        fun segments => (joinFilled segments).result := by
  change ((fillAll e t.specifiers qs (Segment.split template ps)).written >>= joinFilled).result = _
  rw [(fillAll_eq_passes (feeds_split h)).1, Escaping.result_bind]

/-- Arguments that are all accepted end up in the places of their placeholders, and no value is
left over. -/
theorem substitute_of_accepted (h : enqueue args (standard.scan template) [] = .ok qs)
    {w : Placeholder → Text}
    (hw : ∀ p ∈ standard.scan template, (standard.formatted e args p).result = .ok (w p)) :
    (standard.substitute e template (standard.scan template) qs).2.result =
        .ok (template.edited (Placeholder.edits w (standard.scan template))) ∧
      ∀ q ∈ (standard.substitute e template (standard.scan template) qs).1, q.2 = [] := by
  have hpasses : (passes e (argumentOf args) standard.specifiers
      (Segment.split template (standard.scan template))).result =
        .ok ((Segment.split template (standard.scan template)).map (Segment.fillWith w)) :=
    result_passes_of_ok fun p hp => by
      rw [Segment.holes_split] at hp
      obtain ⟨s, -, -, -, hf, hb⟩ := formatted_eq hp hp h
      rw [hb, ← hf]
      exact hw p hp
  constructor
  · rw [result_substitute h, hpasses]
    change (joinFilled _).result = _
    rw [joinFilled, Placeholder.join_split (Placeholder.separate_scan standard_single template)]
    rfl
  · intro q hq
    have hdistinct : Queues.Distinct (fillAll e standard.specifiers qs
        (Segment.split template (standard.scan template))).left :=
      distinct_fillAll (distinct_enqueue Queues.distinct_nil h)
    have hempty := (fillAll_eq_passes (feeds_split h)).2 _ hpasses q.1
    rw [Segment.holes_map_fillWith] at hempty
    exact (hdistinct.waiting_eq hq).symm.trans hempty

/-- Of the arguments that are refused the one whose placeholder comes first in the order of the
passes decides the error. -/
theorem substitute_of_refused (h : enqueue args (standard.scan template) [] = .ok qs)
    (hfail : ∃ p ∈ standard.scan template, ∃ error,
      (standard.formatted e args p).result = .error error) :
    ∃ p ∈ standard.scan template, ∃ error, (standard.formatted e args p).result = .error error ∧
      (standard.substitute e template (standard.scan template) qs).2.result = .error error ∧
      ∀ q ∈ standard.scan template,
        (∃ error', (standard.formatted e args q).result = .error error') →
          passOrder standard.specifiers p ≤ passOrder standard.specifiers q := by
  have heq : ∀ p ∈ standard.scan template, formatBy e (argumentOf args) standard.specifiers p =
      standard.formatted e args p := by
    intro p hp
    obtain ⟨s, -, -, -, hf, hb⟩ := formatted_eq hp hp h
    rw [hf, hb]
  have hholes := Segment.holes_split template (standard.scan template)
  obtain ⟨p, hp, error, hpe, hres, hmin⟩ := result_passes_of_error e (argumentOf args)
    standard.specifiers (Segment.split template (standard.scan template))
    (by
      rw [hholes]
      intro p hp
      obtain ⟨s, hs, htoken, -⟩ := exists_standard_of_mem_scan hp
      exact ⟨s, hs, htoken⟩)
    (by
      rw [hholes]
      exact pairwise_position_scan standard template)
    (by
      rw [hholes]
      obtain ⟨p, hp, error, hpe⟩ := hfail
      exact ⟨p, hp, error, by rwa [heq p hp]⟩)
  rw [hholes] at hp hmin
  refine ⟨p, hp, error, by rwa [← heq p hp], by rw [result_substitute h, hres]; rfl, ?_⟩
  rintro q hq ⟨error', hqe⟩
  exact hmin q hq ⟨error', by rwa [heq q hq]⟩

/-- The queues and passes come to the same as putting each argument in the place of its own
placeholder. -/
theorem substitute_positional (e : Escaper) {strict : Bool} {template : Text} {args : List Value}
    {qs : Queues} (h : bindArguments strict template (standard.scan template) args = .ok qs) :
    let ps := standard.scan template
    let outcome := standard.substitute e template ps qs
    Placeholder.Separate template ps ∧
    (∀ (i : Nat) (p : Placeholder), ps[i]? = some p →
      ∃ s ∈ standard.specifiers, ∃ v, s.token = p.token ∧ args[i]? = some v ∧
        standard.formatted e args p = s.format e v) ∧
    (∀ w : Placeholder → Text,
      (∀ p ∈ ps, (standard.formatted e args p).result = .ok (w p)) →
        outcome.2.result = .ok (template.edited (Placeholder.edits w ps)) ∧
          ∀ q ∈ outcome.1, q.2 = []) ∧
    ((∃ p ∈ ps, ∃ error, (standard.formatted e args p).result = .error error) →
      ∃ p ∈ ps, ∃ error, (standard.formatted e args p).result = .error error ∧
        outcome.2.result = .error error ∧
        ∀ q ∈ ps, (∃ error', (standard.formatted e args q).result = .error error') →
          passOrder standard.specifiers p ≤ passOrder standard.specifiers q) := by
  have hq := enqueue_of_bind h
  refine ⟨Placeholder.separate_scan standard_single template, fun i p hi => ?_,
    fun w hw => substitute_of_accepted hq hw, fun hfail => substitute_of_refused hq hfail⟩
  have hp := List.mem_of_getElem? hi
  obtain ⟨s, hs, htoken, harg, hf, -⟩ := formatted_eq hp hp hq
  rw [position_of_getElem?_scan hi] at harg
  exact ⟨s, hs, _, htoken, harg, hf⟩

/-- A value that looks like a placeholder stays as it is. -/
theorem substitute_positional_mixed :
    bindArguments true "?d ? ?#".toList (standard.scan "?d ? ?#".toList)
        [.int 7, .text "?D".toList, .list [.text "a".toList]] =
      .ok [("?d".toList, [.int 7]), ("?".toList, [.text "?D".toList]),
        ("?#".toList, [.list [.text "a".toList]])] ∧
    (standard.substitute .mysql "?d ? ?#".toList (standard.scan "?d ? ?#".toList)
      [("?d".toList, [.int 7]), ("?".toList, [.text "?D".toList]),
        ("?#".toList, [.list [.text "a".toList]])]).2.result = .ok "7 '?D' \x60a\x60".toList := by
  have h : bindArguments true "?d ? ?#".toList (standard.scan "?d ? ?#".toList)
      [.int 7, .text "?D".toList, .list [.text "a".toList]] =
    .ok [("?d".toList, [.int 7]), ("?".toList, [.text "?D".toList]),
      ("?#".toList, [.list [.text "a".toList]])] := by rfl
  refine ⟨h, ?_⟩
  have hw := ((substitute_positional .mysql h).2.2.1
    (fun p => if p.position = 0 then "7".toList
      else if p.position = 1 then "'?D'".toList else "\x60a\x60".toList) (by decide)).1
  rw [hw]
  decide

end SpecifierTable
end QueryTemplate
