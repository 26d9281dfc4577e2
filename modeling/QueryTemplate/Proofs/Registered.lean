import QueryTemplate.Proofs.Tables

/-! How a table of any specifiers reads the tokens of a template: the scanner in any case, the
lookup in lower case and with the last of several alike, the passes as they are and with the first.
Where these part, a placeholder has a kind that it is not filled by, or is not filled at all. -/
namespace QueryTemplate

/-- Segments with a placeholder left have no text. -/
theorem Segment.exists_joinFrom_eq_error {segments : List Segment} (h : holes segments ≠ [])
    (i : Nat) : ∃ j, joinFrom i segments = .error j := by
  induction segments generalizing i with
  | nil => exact absurd rfl h
  | cons a rest ih =>
    cases a with
    | text t =>
      obtain ⟨j, hj⟩ := ih h (i + 1)
      exact ⟨j, by rw [joinFrom, hj]; rfl⟩
    | placeholder p => exact ⟨i, rfl⟩

namespace SpecifierTable

/-- The first specifier with a token, whose pass takes all that waits for it. -/
def first? (t : SpecifierTable) (token : Text) : Option Specifier :=
  t.specifiers.find? (·.token == token)

/-- The last specifier with a token, which is the one that lookups find. -/
def last? (t : SpecifierTable) (token : Text) : Option Specifier :=
  t.specifiers.reverse.find? (·.token == token)

variable {t : SpecifierTable} {template token : Text} {p : Placeholder}

theorem first?_isSome_iff :
    (t.first? token).isSome = true ↔ ∃ s ∈ t.specifiers, s.token = token := by
  rw [first?, List.find?_isSome]
  simp only [beq_iff_eq]

theorem last?_isSome_iff :
    (t.last? token).isSome = true ↔ ∃ s ∈ t.specifiers, s.token = token := by
  rw [last?, List.find?_isSome]
  simp only [List.mem_reverse, beq_iff_eq]

theorem mem_of_first? {s : Specifier} (h : t.first? token = some s) :
    s ∈ t.specifiers ∧ s.token = token := by
  have htoken := List.find?_some h
  rw [beq_iff_eq] at htoken
  exact ⟨List.mem_of_find?_eq_some h, htoken⟩

theorem mem_of_last? {s : Specifier} (h : t.last? token = some s) :
    s ∈ t.specifiers ∧ s.token = token := by
  have htoken := List.find?_some h
  rw [beq_iff_eq] at htoken
  exact ⟨List.mem_reverse.1 (List.mem_of_find?_eq_some h), htoken⟩

/-- The token of a placeholder is in lower case already, so its lookup takes it as it is. -/
theorem get?_of_mem_scan (hp : p ∈ t.scan template) : t.get? p.token = t.last? p.token := by
  obtain ⟨-, -, -, htoken, -⟩ := mem_scan hp
  rw [get?, htoken, Text.lower_lower, last?]

theorem isRegistered_iff_of_mem_scan (hp : p ∈ t.scan template) :
    t.isRegistered p.token = true ↔ ∃ s ∈ t.specifiers, s.token = p.token := by
  rw [isRegistered, get?_of_mem_scan hp, last?_isSome_iff]

theorem kind_of_mem_scan (hp : p ∈ t.scan template) {last : Specifier}
    (hlast : t.last? p.token = some last) : p.kind = last.kind := by
  obtain ⟨-, -, -, -, hkind⟩ := mem_scan hp
  rw [hkind, kind?, get?_of_mem_scan hp, hlast]
  rfl

/-- Where specifiers of one token are of one kind, a placeholder is given this kind. -/
theorem kind_eq_of_agree
    (hkinds : ∀ s ∈ t.specifiers, ∀ s' ∈ t.specifiers, s.token = s'.token → s.kind = s'.kind)
    (hp : p ∈ t.scan template) {first : Specifier} (hfirst : t.first? p.token = some first) :
    p.kind = first.kind := by
  obtain ⟨hmem, htoken⟩ := mem_of_first? hfirst
  obtain ⟨last, hlast⟩ := Option.isSome_iff_exists.1 (last?_isSome_iff.2 ⟨first, hmem, htoken⟩)
  obtain ⟨hmem', htoken'⟩ := mem_of_last? hlast
  rw [kind_of_mem_scan hp hlast]
  exact hkinds last hmem' first hmem (htoken'.trans htoken.symm)

theorem WellFormed.exists_spells (ht : t.WellFormed) (hne : t.specifiers ≠ [])
    (hp : p ∈ t.scan template) :
    ∃ s ∈ t.specifiers, p.span.stop = p.span.start + s.token.length ∧
      Text.Spells s.token (p.span.of template) := by
  obtain ⟨hspan, -⟩ := mem_scan hp
  obtain ⟨-, k, hk, hstop⟩ := Matcher.mem_spans hspan
  obtain ⟨s, hs, hlength, hbegins⟩ := ht.exists_beginsWith hne hk
  refine ⟨s, hs, by rw [hstop, hlength], ?_⟩
  rw [Span.of, hstop, Nat.add_sub_cancel_left, hlength]
  exact (Text.beginsWith_iff _ _).1 hbegins

/-- Is the token a question mark, by itself or with one character after it that is not blank? -/
def IsMark (token : Text) : Prop :=
  token = ['?'] ∨ ∃ c, Text.isBlank c = false ∧ token = ['?', c]

/-- What spells a mark is one. -/
theorem IsMark.of_spells {part : Text} (h : IsMark token) (hpart : Text.Spells token part) :
    IsMark part := by
  have hmark : ∀ b, Text.sameLetter '?' b = true → b = '?' := by
    intro b hb
    rcases (Text.sameLetter_iff (by decide) b).1 hb with rfl | rfl <;> rfl
  rcases h with rfl | ⟨c, hc, rfl⟩
  · obtain ⟨b, rest, hb, hrest, rfl⟩ := List.forall₂_cons_left_iff.1 hpart
    rw [List.forall₂_nil_left_iff.1 hrest, hmark b hb]
    exact Or.inl rfl
  · obtain ⟨b, later, hb, hlater, rfl⟩ := List.forall₂_cons_left_iff.1 hpart
    obtain ⟨d, rest, hd, hrest, rfl⟩ := List.forall₂_cons_left_iff.1 hlater
    rw [List.forall₂_nil_left_iff.1 hrest, hmark b hb]
    refine Or.inr ⟨d, ?_, rfl⟩
    by_contra hblank
    rw [Bool.not_eq_false] at hblank
    rw [Text.eq_of_sameLetter_of_isBlank hblank hd, hblank] at hc
    exact absurd hc (by decide)

theorem IsMark.length_le (h : IsMark token) : token.length ≤ 2 := by
  rcases h with rfl | ⟨c, -, rfl⟩
  · exact Nat.le_succ 1
  · exact Nat.le_refl 2

/-- The tokens of a table of marks are looked up as the candidates that they are, so those of a
template that is accepted are registered, however they are written. -/
theorem WellFormed.isRegistered_of_marks (ht : t.WellFormed) (hne : t.specifiers ≠ [])
    (hmarks : ∀ s ∈ t.specifiers, IsMark s.token) (hvalid : t.unknown template = [])
    (hp : p ∈ t.scan template) : t.isRegistered p.token = true := by
  obtain ⟨s, hs, hstop, hspells⟩ := ht.exists_spells hne hp
  obtain ⟨-, -, -, htoken, -⟩ := mem_scan hp
  have hlength := hspells.length_eq
  rw [isRegistered_iff_of_mem_scan hp, htoken]
  rcases (hmarks s hs).of_spells hspells with hone | ⟨c, hc, htwo⟩
  · rw [hone] at hlength ⊢
    rcases hmarks s hs with hmark | ⟨c, -, hmark⟩
    · exact ⟨s, hs, hmark⟩
    · rw [hmark] at hlength
      exact absurd hlength (by simp)
  · rw [htwo, List.length_cons, List.length_singleton] at hlength
    have hfirst : template[p.span.start]? = some '?' := by
      rw [← Nat.add_zero p.span.start, ← Span.getElem?_of (by omega), htwo]
      rfl
    have hnext : template[p.span.start + 1]? = some c := by
      rw [← Span.getElem?_of (by omega), htwo]
      rfl
    obtain ⟨candidate, hspan, hle, hge⟩ := Candidate.exists_span hfirst hnext hc
    obtain ⟨-, hin, -⟩ := Candidate.of_mem_spans hspan
    have hregistered := (unknown_eq_nil_iff t template).1 hvalid candidate hspan
    obtain ⟨s', hs', hs'token⟩ := last?_isSome_iff.1 hregistered
    -- the candidate around the placeholder is no longer than a token, so it is the placeholder
    have hshort := (hmarks s' hs').length_le
    rw [hs'token] at hshort
    have hwhole := (length_le_length_lowerAfter [] (candidate.of template)).trans hshort
    rw [Span.of, List.length_take_of_le (by rw [List.length_drop]; omega)] at hwhole
    have hstart : candidate.start = p.span.start := by omega
    have hend : candidate.stop = p.span.stop := by omega
    rw [Span.of, hstart, hend] at hs'token
    exact ⟨s', hs', hs'token⟩

section Passes

variable {e : Escaper} {strict : Bool} {args : List Value} {qs : Queues} {w : Placeholder → Text}

/-- The passes fill the placeholders of the tokens that some specifier has, each by the first such
specifier. -/
theorem result_substitute_of_known {ps : List Placeholder} (h : enqueue args ps [] = .ok qs)
    (hw : ∀ p ∈ ps, ∀ s, t.first? p.token = some s →
      (s.format e (argumentOf args p)).result = .ok (w p)) :
    (t.substitute e template ps qs).2.result =
      (joinFilled ((Segment.split template ps).map (Segment.fillKnown t.specifiers w))).result := by
  have hpasses : (passes e (argumentOf args) t.specifiers (Segment.split template ps)).result =
      .ok ((Segment.split template ps).map (Segment.fillKnown t.specifiers w)) :=
    result_passes_of_known fun p hp => by
      rw [Segment.holes_split] at hp
      exact hw p hp
  rw [result_substitute h, hpasses]
  rfl

theorem result_joinFilled_of_unknown {ps : List Placeholder} (hp : p ∈ ps)
    (hnone : t.first? p.token = none) :
    ∃ i, (joinFilled ((Segment.split template ps).map
      (Segment.fillKnown t.specifiers w))).result = .error (.defect (.unfilled i)) := by
  have hholes : Segment.holes ((Segment.split template ps).map
      (Segment.fillKnown t.specifiers w)) ≠ [] := by
    rw [Segment.holes_map_fillKnown, Segment.holes_split]
    refine List.ne_nil_of_mem (List.mem_filter.2 ⟨hp, ?_⟩)
    rw [first?] at hnone
    rw [hnone]
    rfl
  obtain ⟨i, hi⟩ := Segment.exists_joinFrom_eq_error hholes 0
  exact ⟨i, by rw [joinFilled, Segment.join, hi]; rfl⟩

theorem result_joinFilled_of_known {ps : List Placeholder}
    (hall : ∀ p ∈ ps, (t.first? p.token).isSome = true)
    (hseparate : Placeholder.Separate template ps) :
    (joinFilled ((Segment.split template ps).map (Segment.fillKnown t.specifiers w))).result =
      .ok (template.edited (Placeholder.edits w ps)) := by
  have hfilled : (Segment.split template ps).map (Segment.fillKnown t.specifiers w) =
      (Segment.split template ps).map (Segment.fillWith w) := by
    refine List.map_congr_left fun a ha => ?_
    cases a with
    | text text => rfl
    | placeholder p =>
      have hp := Segment.mem_holes.2 ha
      rw [Segment.holes_split] at hp
      exact if_pos (hall p hp)
  rw [hfilled, joinFilled, Placeholder.join_split hseparate]
  rfl

/-- Whatever the specifiers of a table, a placeholder spells the token of one of them and is
registered iff its own token, in lower case, is one as it stands. The kind it is given is that of
the last specifier with its token, its value is written by the first, and there is a text iff all
placeholders are registered. With tokens that are marks they are, in a template that is accepted. -/
theorem substitute_registered {t : SpecifierTable} (ht : t.WellFormed) (e : Escaper)
    {strict : Bool} {template : Text} {args : List Value} {qs : Queues}
    (hbind : bindArguments strict template (t.scan template) args = .ok qs) :
    let ps := t.scan template
    let outcome := (t.substitute e template ps qs).2.result
    (∀ p ∈ ps, t.specifiers ≠ [] → p.token = Text.lower (p.span.of template) ∧
      ∃ s ∈ t.specifiers, Text.Spells s.token (p.span.of template)) ∧
    (∀ p ∈ ps, t.isRegistered p.token = true ↔ ∃ s ∈ t.specifiers, s.token = p.token) ∧
    (∀ p ∈ ps, ∀ last, t.last? p.token = some last → p.kind = last.kind) ∧
    ((∀ s ∈ t.specifiers, ∀ s' ∈ t.specifiers, s.token = s'.token → s.kind = s'.kind) →
      ∀ p ∈ ps, ∀ first, t.first? p.token = some first → p.kind = first.kind) ∧
    (∀ w : Placeholder → Text,
      (∀ p ∈ ps, ∀ first, t.first? p.token = some first →
        ∃ v, args[p.position]? = some v ∧ (first.format e v).result = .ok (w p)) →
      ((∀ p ∈ ps, t.isRegistered p.token = true) →
        outcome = .ok (template.edited (Placeholder.edits w ps))) ∧
      ((∃ p ∈ ps, t.isRegistered p.token = false) →
        ∃ i, outcome = .error (.defect (.unfilled i)))) ∧
    (t.specifiers ≠ [] → (∀ s ∈ t.specifiers, IsMark s.token) → t.unknown template = [] →
      ∀ p ∈ ps, t.isRegistered p.token = true) := by
  intro ps outcome
  have hregistered : ∀ p ∈ ps, t.isRegistered p.token = (t.first? p.token).isSome := fun p hp => by
    rw [Bool.eq_iff_iff, isRegistered_iff_of_mem_scan hp, first?_isSome_iff]
  refine ⟨fun p hp hne => ?_, fun p hp => isRegistered_iff_of_mem_scan hp,
    fun p hp last => kind_of_mem_scan hp, fun hkinds p hp first => kind_eq_of_agree hkinds hp,
    fun w hw => ?_, fun hne hmarks hvalid p hp => ht.isRegistered_of_marks hne hmarks hvalid hp⟩
  · obtain ⟨s, hs, -, hspells⟩ := ht.exists_spells hne hp
    exact ⟨(mem_scan hp).2.2.2.1, s, hs, hspells⟩
  have houtcome : outcome = (joinFilled ((Segment.split template ps).map
      (Segment.fillKnown t.specifiers w))).result :=
    result_substitute_of_known (enqueue_of_bind hbind) fun p hp first hfirst => by
      obtain ⟨v, hv, htext⟩ := hw p hp first hfirst
      rwa [argumentOf, hv]
  rw [houtcome]
  constructor
  · intro hall
    have hne : t.specifiers ≠ [] := by
      -- without specifiers there would be a placeholder, and it would not be registered
      intro hempty
      obtain rfl : t = ⟨[]⟩ := congrArg SpecifierTable.mk hempty
      have hfirst : (⟨[], none, 0, 0, 0⟩ : Placeholder) ∈ ps := by
        change _ ∈ (⟨[]⟩ : SpecifierTable).scan template
        rw [scan_empty]
        exact List.mem_map.2 ⟨0, List.mem_range.2 (Nat.succ_pos _), rfl⟩
      exact absurd (hall _ hfirst) (by decide)
    exact result_joinFilled_of_known (fun p hp => (hregistered p hp).symm.trans (hall p hp))
      (Placeholder.separate_scan (matcher_single hne ht.tokens) template)
  · rintro ⟨p, hp, hnot⟩
    have hnone : t.first? p.token = none := by
      rw [← Option.isNone_iff_eq_none, ← Option.not_isSome, ← hregistered p hp, hnot]
      rfl
    exact result_joinFilled_of_unknown hp hnone

/-- Two specifiers differ in the case of a letter: both placeholders have the token of the second,
which is in lower case. -/
theorem substitute_registered_capital :
    let t : SpecifierTable :=
      ⟨[⟨['?', 'D'], some .integer, .token, "custom"⟩, ⟨['?', 'd'], some .any, .token, "custom"⟩]⟩
    let template := "?D, ?d".toList
    let args : List Value := [.int 1, .text ['a']]
    let qs : Queues := [(['?', 'd'], args)]
    t.WellFormed ∧ bindArguments true template (t.scan template) args = .ok qs ∧
      t.unknown template = [] ∧ (∀ p ∈ t.scan template, t.isRegistered p.token = true) ∧
      (t.substitute .mysql template (t.scan template) qs).2.result = .ok "1, 'a'".toList := by
  intro t template args qs
  have ht : t.WellFormed := by decide
  have hbind : bindArguments true template (t.scan template) args = .ok qs := by rfl
  have hvalid : t.unknown template = [] := by rfl
  obtain ⟨-, -, -, -, hfill, hmarks⟩ := substitute_registered ht .mysql hbind
  have hall := hmarks (List.cons_ne_nil _ _)
    (List.forall_mem_cons.2 ⟨Or.inr ⟨'D', rfl, rfl⟩, List.forall_mem_singleton.2
      (Or.inr ⟨'d', rfl, rfl⟩)⟩) hvalid
  have hw := (hfill (fun p => if p.position = 0 then "1".toList else "'a'".toList) ?_).1 hall
  · exact ⟨ht, hbind, hvalid, hall, hw.trans (by decide)⟩
  · intro p hp first hfirst
    have hscan : t.scan template = [⟨['?', 'd'], some .any, 0, 0, 2⟩,
      ⟨['?', 'd'], some .any, 1, 4, 6⟩] := by rfl
    rw [hscan] at hp
    simp only [List.mem_cons, List.not_mem_nil, or_false] at hp
    rcases hp with rfl | rfl
    · obtain rfl := Option.some.inj hfirst
      exact ⟨.int 1, rfl, rfl⟩
    · obtain rfl := Option.some.inj hfirst
      exact ⟨.text ['a'], rfl, rfl⟩

/-- A single specifier, with a capital letter. -/
def capital : SpecifierTable := ⟨[⟨['X'], some .integer, .token, "custom"⟩]⟩

/-- Two specifiers of different kinds with one token. -/
def twofold : SpecifierTable :=
  ⟨[⟨['?', 'x'], some .identifier, .token, "custom"⟩, ⟨['?', 'x'], some .any, .token, "custom"⟩]⟩

/-- A token with a capital letter is recognised in a template, but neither looked up nor filled. Of
two specifiers with one token the last tells the kind of a placeholder, and the first fills it. -/
theorem placeholder_unregistered_or_misnamed :
    (capital.WellFormed ∧ capital.unknown ['X'] = [] ∧
      capital.scan ['X'] = [⟨['x'], none, 0, 0, 1⟩] ∧ capital.isRegistered ['x'] = false ∧
      bindArguments true ['X'] (capital.scan ['X']) [.int 1] = .ok [(['x'], [.int 1])] ∧
      (capital.substitute .mysql ['X'] (capital.scan ['X']) [(['x'], [.int 1])]).2.result =
        .error (.defect (.unfilled 0))) ∧
    twofold.WellFormed ∧ twofold.unknown ['?', 'x'] = [] ∧
      twofold.scan ['?', 'x'] = [⟨['?', 'x'], some .any, 0, 0, 2⟩] ∧
      bindArguments true ['?', 'x'] (twofold.scan ['?', 'x']) [.text ['a']] =
        .ok [(['?', 'x'], [.text ['a']])] ∧
      (twofold.substitute .mysql ['?', 'x'] (twofold.scan ['?', 'x'])
        [(['?', 'x'], [.text ['a']])]).2.result = .ok "\x60a\x60".toList :=
  ⟨⟨by decide, rfl, rfl, rfl, rfl, rfl⟩, by decide, rfl, rfl, rfl, by rfl⟩

end Passes

end SpecifierTable
end QueryTemplate
