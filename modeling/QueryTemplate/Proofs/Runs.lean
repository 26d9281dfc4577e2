import Mathlib.Data.List.Pairwise
import QueryTemplate.Proofs.Candidates

/-! The runs of question marks in a template, and the unknown tokens among those they make. -/
namespace QueryTemplate

/-- A run of question marks that goes as far as it can to both sides. -/
structure MarkRun (template : Text) where
  before : Text
  marks : Nat
  after : Text
  whole : template = before ++ (List.replicate marks '?' ++ after)
  marks_pos : 0 < marks
  before_ends : before.getLast? ≠ some '?'
  after_begins : after.head? ≠ some '?'

namespace Candidate

/-- The token that so many question marks make with the character after them. Before a blank, or at
the end, there are the marks alone, if they are several. -/
def ofMarks? (marks : Nat) (next : Option Char) : Option Text :=
  if next.any (!Text.isBlank ·) then some (List.replicate marks '?' ++ next.toList)
  else if 2 ≤ marks then some (List.replicate marks '?')
  else none

theorem takeWhile_marks (marks : Nat) {after : Text} (hafter : after.head? ≠ some '?') :
    (List.replicate marks '?' ++ after).takeWhile (· == '?') = List.replicate marks '?' := by
  have hmarks : ∀ c ∈ List.replicate marks '?', (c == '?') = true := fun c hc =>
    beq_iff_eq.2 (List.eq_of_mem_replicate hc)
  have hnone : after.takeWhile (· == '?') = [] := by
    cases after with
    | nil => rfl
    | cons c after =>
      refine List.takeWhile_cons_of_neg fun hc => hafter ?_
      rw [List.head?_cons, beq_iff_eq.1 hc]
  rw [List.takeWhile_append_of_pos hmarks, hnone, List.append_nil]

/-- At the head of a run the candidate is the token that the run makes. -/
theorem length?_marks {marks : Nat} (hpos : 0 < marks) {after : Text}
    (hafter : after.head? ≠ some '?') :
    length? (List.replicate marks '?' ++ after) =
      (ofMarks? marks after.head?).map List.length := by
  obtain ⟨m, rfl⟩ : ∃ m, marks = m + 1 := ⟨marks - 1, by omega⟩
  have hnext : (List.replicate (m + 1) '?' ++ after)[1 + m]? = after.head? := by
    have hlen : (List.replicate (m + 1) '?').length = 1 + m := by
      rw [List.length_replicate, Nat.add_comm]
    rw [List.getElem?_append_right (Nat.le_of_eq hlen), hlen, Nat.sub_self,
      List.head?_eq_getElem?]
  unfold length? ofMarks?
  simp only [takeWhile_marks (m + 1) hafter, List.length_replicate, List.range'_1_concat,
    List.reverse_append, List.reverse_singleton, List.singleton_append, List.find?_cons, hnext]
  cases hopen : after.head?.any (!Text.isBlank ·) with
  | true =>
    obtain ⟨c, hc, -⟩ := (Option.any_eq_true _ _).1 hopen
    simp only [if_true, Option.map_some, List.length_append, List.length_replicate, hc,
      Option.toList_some, List.length_singleton, Nat.add_comm 1 m]
  | false =>
    simp only [Bool.false_eq_true, if_false]
    -- without a character to take, the last mark is taken for one
    cases m with
    | zero => rfl
    | succ m =>
      have hmark : (List.replicate (m + 1 + 1) '?' ++ after)[1 + m]? = some '?' := by
        have hlt : 1 + m < m + 1 + 1 := by omega
        rw [List.getElem?_append_left (by rwa [List.length_replicate]),
          List.getElem?_replicate_of_lt hlt]
      have htaken : (some '?').any (!Text.isBlank ·) = true := by decide
      rw [if_pos (by omega), List.range'_1_concat, List.reverse_append, List.reverse_singleton,
        List.singleton_append, List.find?_cons_of_pos (by rw [hmark]; exact htaken)]
      simp [Nat.add_comm]

theorem prefix_of_ofMarks? {marks : Nat} {after token : Text}
    (h : ofMarks? marks after.head? = some token) :
    token <+: List.replicate marks '?' ++ after := by
  unfold ofMarks? at h
  split_ifs at h
  · obtain rfl := Option.some.inj h
    cases after with
    | nil => simp
    | cons c after => exact ⟨after, by simp⟩
  · obtain rfl := Option.some.inj h
    exact List.prefix_append _ _

theorem matcher_single : matcher.Single := by
  intro text
  cases h : length? text with
  | none => exact Or.inl (by rw [matcher, h]; rfl)
  | some l =>
    obtain ⟨hlen, -, c, hc, -⟩ := of_length?_eq_some h
    have hlast := (List.getElem?_eq_some_iff.1 hc).1
    exact Or.inr ⟨l, by rw [matcher, h]; rfl, by omega, by omega⟩

variable {template : Text} {s : Span}

/-- Two candidates are the same, or one ends before the other begins. -/
theorem eq_or_apart {s' : Span} (hs : s ∈ matcher.spans template)
    (hs' : s' ∈ matcher.spans template) :
    s = s' ∨ s.stop ≤ s'.start ∨ s'.stop ≤ s.start := by
  let Apart (a b : Span) : Prop := a = b ∨ a.stop ≤ b.start ∨ b.stop ≤ a.start
  have : Std.Symm Apart := ⟨fun a b h => h.imp Eq.symm Or.symm⟩
  have hall : (matcher.spans template).Pairwise Apart :=
    (Matcher.pairwise_spans matcher_single.proper template).imp fun h => Or.inr (Or.inl h)
  exact List.Pairwise.forall_of_forall (R := Apart) (fun a _ => Or.inl rfl) hall hs hs'

/-- No question mark stands right before a candidate, for it would itself be part of one. -/
theorem first_of_mem_spans (hs : s ∈ matcher.spans template) :
    ∀ k, k + 1 = s.start → template[k]? ≠ some '?' := by
  intro k hk hmark
  obtain ⟨hlen, -, hmarks, -⟩ := of_mem_spans hs
  have hfirst : template[k + 1]? = some '?' := hmarks (k + 1) (by omega) (by omega)
  obtain ⟨s', hs', hstart, hstop⟩ := exists_span hmark hfirst (by decide)
  rcases eq_or_apart hs hs' with rfl | hbefore | hafter
  · omega
  · omega
  · omega

end Candidate

namespace MarkRun

variable {template : Text}

/-- The offset of the first mark. -/
def start (run : MarkRun template) : Nat := run.before.length

/-- The token that a run makes, if it makes one. -/
def token? (run : MarkRun template) : Option Text := Candidate.ofMarks? run.marks run.after.head?

theorem drop_start (run : MarkRun template) :
    template.drop run.start = List.replicate run.marks '?' ++ run.after := by
  have hdrop := congrArg (List.drop run.start) run.whole
  rwa [start, List.drop_left] at hdrop

theorem length?_drop (run : MarkRun template) :
    Candidate.length? (template.drop run.start) = run.token?.map List.length := by
  rw [run.drop_start]
  exact Candidate.length?_marks run.marks_pos run.after_begins

theorem take_drop {run : MarkRun template} {token : Text} (h : run.token? = some token) :
    (template.drop run.start).take token.length = token := by
  rw [run.drop_start]
  exact (List.prefix_iff_eq_take.1 (Candidate.prefix_of_ofMarks? h)).symm

theorem first (run : MarkRun template) : ∀ k, k + 1 = run.start → template[k]? ≠ some '?' := by
  intro k hk
  have hlen : run.before.length = k + 1 := hk.symm
  have hwhole : template[k]? = run.before[k]? := by
    conv_lhs => rw [run.whole]
    exact List.getElem?_append_left (by omega)
  have hlast := run.before_ends
  rw [List.getLast?_eq_getElem?, hlen, Nat.add_sub_cancel] at hlast
  rwa [hwhole]

/-- A question mark with none before it begins a run. -/
theorem exists_of_first {i : Nat} (hi : template[i]? = some '?')
    (hfirst : ∀ k, k + 1 = i → template[k]? ≠ some '?') :
    ∃ run : MarkRun template, run.start = i := by
  obtain ⟨hlt, hmark⟩ := List.getElem?_eq_some_iff.1 hi
  let rest := template.drop i
  have hrest : rest = '?' :: template.drop (i + 1) := by
    rw [← hmark]
    exact List.drop_eq_getElem_cons hlt
  have hmarks : rest.takeWhile (· == '?') =
      List.replicate (rest.takeWhile (· == '?')).length '?' :=
    List.eq_replicate_of_mem fun c hc =>
      beq_iff_eq.1 (List.mem_takeWhile_imp (p := (· == '?')) hc)
  refine ⟨⟨template.take i, (rest.takeWhile (· == '?')).length, rest.dropWhile (· == '?'),
    ?_, ?_, ?_, ?_⟩, List.length_take_of_le (Nat.le_of_lt hlt)⟩
  · rw [← hmarks, List.takeWhile_append_dropWhile, List.take_append_drop]
  · rw [hrest, List.takeWhile_cons_of_pos rfl]
    exact Nat.succ_pos _
  · cases i with
    | zero => simp
    | succ k =>
      rw [List.getLast?_eq_getElem?, List.length_take_of_le (Nat.le_of_lt hlt),
        Nat.add_sub_cancel, List.getElem?_take_of_lt (Nat.lt_succ_self k)]
      exact hfirst k rfl
  · intro hhead
    have hstop := List.head?_dropWhile_not (· == '?') rest
    rw [hhead] at hstop
    exact absurd hstop (by decide)

/-- The candidates of a template are the tokens of its runs, each at the head of its run. -/
theorem exists_mem_spans_iff (i : Nat) (token : Text) :
    (∃ s ∈ Candidate.matcher.spans template, s.start = i ∧ s.of template = token) ↔
      ∃ run : MarkRun template, run.start = i ∧ run.token? = some token := by
  constructor
  · rintro ⟨s, hs, rfl, rfl⟩
    obtain ⟨-, k, hk, hstop⟩ := Matcher.mem_spans hs
    obtain ⟨hlen, -, hmarks, -⟩ := Candidate.of_mem_spans hs
    obtain ⟨run, hrun⟩ := exists_of_first (hmarks s.start (Nat.le_refl _) (by omega))
      (Candidate.first_of_mem_spans hs)
    refine ⟨run, hrun, ?_⟩
    rw [Candidate.mem_matcher, ← hrun, run.length?_drop] at hk
    obtain ⟨token, htoken, rfl⟩ := Option.map_eq_some_iff.1 hk
    rw [htoken, Span.of, hstop, Nat.add_sub_cancel_left, ← hrun, take_drop htoken]
  · rintro ⟨run, rfl, htoken⟩
    have hlen : token.length ∈ Candidate.matcher (template.drop run.start) := by
      rw [Candidate.mem_matcher, run.length?_drop, htoken]
      rfl
    have hstart : run.start ≤ template.length := by
      conv_rhs => rw [run.whole]
      simp [start]
    refine ⟨⟨run.start, run.start + token.length⟩, Matcher.mem_spans_of hlen hstart ?_, rfl, ?_⟩
    · exact fun j hj l hl => Candidate.add_le_of_first run.first hj hl
    · rw [Span.of, Nat.add_sub_cancel_left]
      exact take_drop htoken

end MarkRun

/-- Without their repetitions the values of an ordered list come in the order of their first
sources. -/
theorem pairwise_eraseDups_map {α β : Type} [BEq β] [LawfulBEq β] {r : α → α → Prop} (f : α → β) :
    ∀ {l : List α}, l.Pairwise r → (l.map f).eraseDups.Pairwise fun a b =>
      ∃ x ∈ l, f x = a ∧ ∀ y ∈ l, f y = b → r x y
  | [], _ => List.Pairwise.nil
  | x :: l, hl => by
    obtain ⟨hx, hl⟩ := List.pairwise_cons.1 hl
    -- the later values that differ from the first
    have hrest : (l.map f).filter (fun b => !b == f x) = (l.filter fun y => !f y == f x).map f := by
      rw [List.filter_map]
      rfl
    have hne : ∀ b ∈ ((l.filter fun y => !f y == f x).map f).eraseDups, b ≠ f x := by
      intro b hb
      rw [← hrest, List.mem_eraseDups, List.mem_filter] at hb
      simpa using hb.2
    rw [List.map_cons, List.eraseDups_cons, hrest, List.pairwise_cons]
    refine ⟨fun b hb => ?_, ?_⟩
    · refine ⟨x, List.mem_cons_self, rfl,
        List.forall_mem_cons.2 ⟨fun hxb => absurd hxb.symm (hne b hb), fun y hy _ => hx y hy⟩⟩
    · refine (pairwise_eraseDups_map f (hl.filter _)).imp_of_mem fun {a b} _ hb => ?_
      rintro ⟨z, hz, hza, hfirst⟩
      refine ⟨z, List.mem_cons_of_mem _ (List.mem_filter.1 hz).1, hza,
        List.forall_mem_cons.2 ⟨fun hxb => absurd hxb.symm (hne b hb), fun y hy hyb => ?_⟩⟩
      have hlater : y ∈ l.filter fun y => !f y == f x :=
        List.mem_filter.2 ⟨hy, by simpa [hyb] using hne b hb⟩
      exact hfirst y hlater hyb
termination_by l => l.length
decreasing_by exact Nat.lt_succ_of_le (List.length_filter_le _ _)

namespace SpecifierTable

variable {t : SpecifierTable} {template : Text}

theorem unknown_eq_eraseDups (t : SpecifierTable) (template : Text) :
    t.unknown template = (((Candidate.matcher.spans template).filter fun s =>
      !t.isRegistered (s.of template)).map (·.of template)).eraseDups := by
  rw [unknown, Candidate.all, List.filter_map]
  rfl

theorem mem_unknown_iff (token : Text) : token ∈ t.unknown template ↔
    t.isRegistered token = false ∧ ∃ run : MarkRun template, run.token? = some token := by
  have hrun : (∃ s ∈ Candidate.matcher.spans template, s.of template = token) ↔
      ∃ run : MarkRun template, run.token? = some token := by
    constructor
    · rintro ⟨s, hs, hof⟩
      obtain ⟨run, -, htoken⟩ := (MarkRun.exists_mem_spans_iff s.start token).1 ⟨s, hs, rfl, hof⟩
      exact ⟨run, htoken⟩
    · rintro ⟨run, htoken⟩
      obtain ⟨s, hs, -, hof⟩ := (MarkRun.exists_mem_spans_iff run.start token).2 ⟨run, rfl, htoken⟩
      exact ⟨s, hs, hof⟩
  rw [unknown, List.mem_eraseDups, List.mem_filter, Candidate.all, List.mem_map, hrun, and_comm,
    Bool.not_eq_true']

/-- Of two unknown tokens the one listed first is made by a run before every run that makes the
other. -/
theorem pairwise_unknown (t : SpecifierTable) (template : Text) :
    (t.unknown template).Pairwise fun a b => ∃ run : MarkRun template, run.token? = some a ∧
      ∀ run' : MarkRun template, run'.token? = some b → run.start < run'.start := by
  have hspans : (Candidate.matcher.spans template).Pairwise fun s s' => s.start < s'.start := by
    refine (Matcher.pairwise_spans Candidate.matcher_single.proper template).imp_of_mem ?_
    intro s s' hs _ hss'
    have := Candidate.matcher_single.start_lt_stop hs
    omega
  have hfirst := pairwise_eraseDups_map (·.of template)
    (hspans.filter fun s => !t.isRegistered (s.of template))
  rw [← unknown_eq_eraseDups] at hfirst
  refine hfirst.imp_of_mem fun {a b} _ hb => ?_
  rintro ⟨s, hs, hsa, hbefore⟩
  have hunknown := (mem_unknown_iff b).1 hb
  obtain ⟨run, hrun, htoken⟩ := (MarkRun.exists_mem_spans_iff s.start a).1
    ⟨s, (List.mem_filter.1 hs).1, rfl, hsa⟩
  refine ⟨run, htoken, fun run' htoken' => ?_⟩
  obtain ⟨s', hs', hrun', hsb⟩ := (MarkRun.exists_mem_spans_iff run'.start b).2 ⟨run', rfl, htoken'⟩
  rw [hrun, ← hrun']
  exact hbefore s' (List.mem_filter.2 ⟨hs', by rw [hsb, hunknown.1]; rfl⟩) hsb

/-- The unknown tokens of a template are those that its runs of question marks make and no specifier
has, each once, in the order in which they are first made. -/
theorem unknown_of_runs (t : SpecifierTable) (template : Text) :
    let tokens := t.unknown template
    tokens.Nodup ∧
    (∀ token, token ∈ tokens ↔
      t.isRegistered token = false ∧ ∃ run : MarkRun template, run.token? = some token) ∧
    tokens.Pairwise fun a b => ∃ run : MarkRun template, run.token? = some a ∧
      ∀ run' : MarkRun template, run'.token? = some b → run.start < run'.start := by
  intro tokens
  have horder := pairwise_unknown t template
  refine ⟨horder.imp ?_, mem_unknown_iff, horder⟩
  rintro a b ⟨run, htoken, hbefore⟩ rfl
  exact Nat.lt_irrefl _ (hbefore run htoken)

/-- Before a blank a run is a token by itself, unless it is a single mark; a token that comes again
is not listed again. -/
example : standard.unknown "???x ?? ?y ??z ?d? ?? ?\t ?y ?#???".toList =
    ["???x".toList, "??".toList, "?y".toList, "??z".toList, "???".toList] := by decide

end SpecifierTable
end QueryTemplate
