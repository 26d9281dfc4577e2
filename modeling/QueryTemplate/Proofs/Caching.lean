import Mathlib.Data.List.Basic
import QueryTemplate.Proofs.Configured

/-! Which step of a run has filled the cache of settings, and what the later ones see of it. -/
namespace QueryTemplate
namespace Configuration

namespace Step

/-- Does a step read the settings? -/
def reads : Step → Bool
  | .set _ _ | .unset _ => false
  | .get | .reload | .escaper | .compile _ _ => true

/-- What a step makes of the variables. -/
def change : Step → Environment → Environment
  | .set name value, env => env.set name value
  | .unset name, env => env.unset name
  | _, env => env

/-- What a step drops before it reads. -/
def drop : Step → Configuration → Configuration
  | .reload, c => { c with cached := none }
  | _, c => c

def isReload : Step → Bool
  | .reload => true
  | _ => false

instance (s? : Option Step) : Decidable (s? = some .reload) :=
  decidable_of_iff (s?.any isReload = true) <| by
    cases s? with
    | none => simp
    | some s => cases s <;> simp [isReload]

/-- The answer of a step that sees these settings, or why there are none to be seen. -/
def answer : Step → Except SettingsError Settings → Answer
  | .set _ _, _ | .unset _, _ => .done
  | .get, seen | .reload, seen => .settings seen
  | .escaper, .ok s => .escaper ((Escaper.named s.compiler.escaper).mapError .escaper)
  | .escaper, .error e => .escaper (.error (.settings e))
  | .compile template args, .ok s => .query (s.query template args)
  | .compile _ _, .error e => .query (.error (.settings e))

end Step

/-- The state after some steps. -/
def after (c : Configuration) (steps : List Step) : Configuration :=
  steps.foldl (fun c s => (c.step s).1) c

/-- The variables that the step after the first `k` finds. -/
def environmentAt (c : Configuration) (steps : List Step) (k : Nat) : Environment :=
  (steps.take k).foldl (fun env s => s.change env) c.environment

/-- The settings that the step after the first `k` would load. -/
def loadAt (c : Configuration) (steps : List Step) (k : Nat) : Except SettingsError Settings :=
  c.loads (c.environmentAt steps k) c.file

/-- Is step `j` one that reads the settings, and do they load at its time? -/
def Loads (c : Configuration) (steps : List Step) (j : Nat) : Prop :=
  (∃ s, steps[j]? = some s ∧ s.reads = true) ∧ ∃ settings, c.loadAt steps j = .ok settings

/-- Has step `j` filled the cache that is there after the first `k` steps? It is the first that
loads since the start or the last reload, which it may be itself. -/
structure Fills (c : Configuration) (steps : List Step) (j k : Nat) : Prop where
  lt : j < k
  loads : c.Loads steps j
  first : ∀ i < j, c.Loads steps i → ∃ m, i < m ∧ m ≤ j ∧ steps[m]? = some .reload
  kept : ∀ m, j < m → m < k → steps[m]? ≠ some .reload

variable {c d : Configuration} {steps : List Step} {s : Step} {i j k : Nat}

instance : Decidable (c.Loads steps j) :=
  decidable_of_iff (steps[j]?.any Step.reads = true ∧ (c.loadAt steps j).toOption.isSome = true) <|
    and_congr (by cases steps[j]? <;> simp) (by cases c.loadAt steps j <;> simp [Except.toOption])

instance : Decidable (c.Fills steps j k) :=
  decidable_of_iff (j < k ∧ c.Loads steps j ∧
      (∀ i < j, c.Loads steps i → ∃ m < j + 1, i < m ∧ steps[m]? = some .reload) ∧
      ∀ m < k, j < m → steps[m]? ≠ some .reload) <| by
    constructor
    · rintro ⟨hlt, hloads, hfirst, hkept⟩
      refine ⟨hlt, hloads, fun i hi hil => ?_, fun m hjm hmk => hkept m hmk hjm⟩
      obtain ⟨m, hm, him, hreload⟩ := hfirst i hi hil
      exact ⟨m, him, Nat.le_of_lt_succ hm, hreload⟩
    · rintro ⟨hlt, hloads, hfirst, hkept⟩
      refine ⟨hlt, hloads, fun i hi hil => ?_, fun m hmk hjm => hkept m hjm hmk⟩
      obtain ⟨m, him, hm, hreload⟩ := hfirst i hi hil
      exact ⟨m, Nat.lt_succ_of_le hm, him, hreload⟩

theorem Fills.unique (hi : c.Fills steps i k) (hj : c.Fills steps j k) : i = j := by
  have hle : ∀ {i j}, c.Fills steps i k → c.Fills steps j k → j ≤ i := by
    intro i j hi hj
    by_contra hlt
    obtain ⟨m, him, hmj, hm⟩ := hj.first i (by omega) hi.loads
    have hjk := hj.lt
    exact hi.kept m him (by omega) hm
  exact Nat.le_antisymm (hle hj hi) (hle hi hj)

/-- A step that loads, with no reload after it, leaves a cache that some step has filled. -/
theorem Loads.exists_fills (hi : c.Loads steps i) (hik : i < k)
    (hkept : ∀ m, i < m → m < k → steps[m]? ≠ some .reload) : ∃ j, c.Fills steps j k := by
  induction i using Nat.strongRecOn with
  | ind i ih =>
    by_cases hfirst : ∀ i' < i, c.Loads steps i' → ∃ m, i' < m ∧ m ≤ i ∧ steps[m]? = some .reload
    · exact ⟨i, hik, hi, hfirst, hkept⟩
    push Not at hfirst
    obtain ⟨i', hlt, hi', hnone⟩ := hfirst
    refine ih i' hlt hi' (by omega) fun m hm hmk => ?_
    by_cases hmi : m ≤ i
    · exact hnone m hm hmi
    · exact hkept m (by omega) hmk

section OneMore

variable (hs : steps[k]? = some s)
include hs

theorem fills_succ_of_unread (h : s.reads = false) :
    c.Fills steps j (k + 1) ↔ c.Fills steps j k := by
  have hother : steps[k]? ≠ some .reload := by
    rw [hs]
    rintro ⟨⟩
    exact absurd h (by decide)
  constructor
  · intro hj
    have hlt := hj.lt
    have hne : j ≠ k := by
      rintro rfl
      obtain ⟨⟨s', hs', hreads⟩, -⟩ := hj.loads
      obtain rfl : s = s' := Option.some.inj (hs.symm.trans hs')
      exact absurd (h.symm.trans hreads) (by decide)
    exact ⟨by omega, hj.loads, hj.first, fun m hm hmk => hj.kept m hm (by omega)⟩
  · intro hj
    refine ⟨Nat.lt_succ_of_lt hj.lt, hj.loads, hj.first, fun m hm hmk => ?_⟩
    rcases Nat.lt_succ_iff_lt_or_eq.1 hmk with hlt | rfl
    · exact hj.kept m hm hlt
    · exact hother

theorem fills_succ_of_reload (h : s = .reload) :
    c.Fills steps j (k + 1) ↔ j = k ∧ c.Loads steps k := by
  subst h
  constructor
  · intro hj
    have hlt := hj.lt
    have hjk : j = k := by
      by_contra hne
      exact hj.kept k (by omega) (Nat.lt_succ_self k) hs
    exact ⟨hjk, hjk ▸ hj.loads⟩
  · rintro ⟨rfl, hj⟩
    exact ⟨Nat.lt_succ_self j, hj, fun i hi _ => ⟨j, hi, Nat.le_refl j, hs⟩,
      fun m hm hmj => by omega⟩

/-- Another step that reads fills the cache only if it is empty and the settings load. -/
theorem fills_succ_of_other (h : s ≠ .reload) :
    c.Fills steps j (k + 1) ↔
      c.Fills steps j k ∨ (∀ i, ¬ c.Fills steps i k) ∧ j = k ∧ c.Loads steps k := by
  have hother : steps[k]? ≠ some .reload := by
    rw [hs]
    exact fun e => h (Option.some.inj e)
  constructor
  · intro hj
    have hlt := hj.lt
    by_cases hjk : j = k
    · subst hjk
      refine Or.inr ⟨fun i hi => ?_, rfl, hj.loads⟩
      obtain ⟨m, him, hmj, hm⟩ := hj.first i hi.lt hi.loads
      rcases Nat.lt_or_eq_of_le hmj with hlt | rfl
      · exact hi.kept m him hlt hm
      · exact hother hm
    · exact Or.inl ⟨by omega, hj.loads, hj.first, fun m hm hmk => hj.kept m hm (by omega)⟩
  · rintro (hj | ⟨hnone, rfl, hj⟩)
    · refine ⟨Nat.lt_succ_of_lt hj.lt, hj.loads, hj.first, fun m hm hmk => ?_⟩
      rcases Nat.lt_succ_iff_lt_or_eq.1 hmk with hlt | rfl
      · exact hj.kept m hm hlt
      · exact hother
    · refine ⟨Nat.lt_succ_self j, hj, fun i hi hloads => ?_, fun m hm hmj => by omega⟩
      by_contra hreload
      push Not at hreload
      obtain ⟨i', hi'⟩ := hloads.exists_fills hi fun m hm hmj => hreload m hm (Nat.le_of_lt hmj)
      exact hnone i' hi'

end OneMore

theorem step_of_unread (h : s.reads = false) (d : Configuration) :
    d.step s = ({ d with environment := s.change d.environment }, .done) := by
  cases s with
  | set _ _ | unset _ => rfl
  | get | reload | escaper | compile _ _ => exact absurd h (by simp [Step.reads])

theorem step_of_reads (h : s.reads = true) (d : Configuration) :
    d.step s = ((s.drop d).get.1, s.answer (s.drop d).get.2) := by
  cases s with
  | set _ _ | unset _ => exact absurd h (by simp [Step.reads])
  | get | reload => rfl
  | escaper =>
    change (_, Answer.escaper _) = _
    rw [escaper_none]
    dsimp only [Step.drop]
    cases d.get.2 <;> rfl
  | compile template args =>
    change (_, Answer.query _) = _
    rw [compileQuery_none]
    dsimp only [Step.drop]
    cases d.get.2 <;> rfl

/-- What a run makes of the configuration it began with, after `k` steps: the cache holds what the
step that has filled it has loaded. -/
structure Ran (c : Configuration) (steps : List Step) (k : Nat) (d : Configuration) : Prop where
  environment : d.environment = c.environmentAt steps k
  file : d.file = c.file
  loads : d.loads = c.loads
  cached : ∀ settings, d.cached = some settings ↔
    ∃ j, c.Fills steps j k ∧ c.loadAt steps j = .ok settings

theorem ran_zero (hc : c.cached = none) : c.Ran steps 0 c where
  environment := rfl
  file := rfl
  loads := rfl
  cached settings := by
    rw [hc]
    refine iff_of_false (by simp) ?_
    rintro ⟨j, hj, -⟩
    exact absurd hj.lt (Nat.not_lt_zero j)

namespace Ran

theorem load (h : c.Ran steps k d) : d.load = c.loadAt steps k := by
  rw [Configuration.load, h.environment, h.file, h.loads]
  rfl

theorem not_fills (h : c.Ran steps k d) (hd : d.cached = none) (j : Nat) : ¬ c.Fills steps j k := by
  intro hj
  obtain ⟨settings, hsettings⟩ := hj.loads.2
  have hsome := (h.cached settings).2 ⟨j, hj, hsettings⟩
  exact absurd (hd.symm.trans hsome) (by simp)

/-- What a reading step sees: what the step that has filled the cache by then has loaded, or else
why its own attempt failed. -/
theorem seen (h : c.Ran steps k d) (hs : steps[k]? = some s) (hreads : s.reads = true) :
    (∃ j, c.Fills steps j (k + 1) ∧ (s.drop d).get.2 = c.loadAt steps j) ∨
      (∀ j, ¬ c.Fills steps j (k + 1)) ∧
        ∃ e, c.loadAt steps k = .error e ∧ (s.drop d).get.2 = .error e := by
  have hloads : ∀ settings, c.loadAt steps k = .ok settings → c.Loads steps k := fun settings hk =>
    ⟨⟨s, hs, hreads⟩, settings, hk⟩
  have hfails : ∀ e, c.loadAt steps k = .error e → ¬ c.Loads steps k := by
    rintro e he ⟨-, settings, hk⟩
    exact absurd (he.symm.trans hk) (by simp)
  by_cases hreload : s = .reload
  · have hseen : (s.drop d).get.2 = c.loadAt steps k := by
      rw [hreload, get_snd, ← h.load]
      rfl
    cases hk : c.loadAt steps k with
    | ok settings =>
      have hfills := (fills_succ_of_reload (c := c) hs hreload).2 ⟨rfl, hloads settings hk⟩
      exact Or.inl ⟨k, hfills, hseen⟩
    | error e =>
      refine Or.inr ⟨fun j hj => ?_, e, rfl, hseen.trans hk⟩
      exact hfails e hk ((fills_succ_of_reload hs hreload).1 hj).2
  have hdrop : s.drop d = d := by
    cases s with
    | reload => exact absurd rfl hreload
    | set _ _ | unset _ | get | escaper | compile _ _ => rfl
  rw [hdrop]
  cases hd : d.cached with
  | some settings =>
    obtain ⟨j, hj, hload⟩ := (h.cached settings).1 hd
    refine Or.inl ⟨j, (fills_succ_of_other hs hreload).2 (Or.inl hj), ?_⟩
    rw [get_snd, hd, hload]
  | none =>
    have hnone := h.not_fills hd
    have hseen : d.get.2 = c.loadAt steps k := by
      rw [get_snd, hd, ← h.load]
    cases hk : c.loadAt steps k with
    | ok settings =>
      have hfills := (fills_succ_of_other hs hreload).2 (Or.inr ⟨hnone, rfl, hloads settings hk⟩)
      exact Or.inl ⟨k, hfills, hseen⟩
    | error e =>
      refine Or.inr ⟨fun j hj => ?_, e, rfl, hseen.trans hk⟩
      rcases (fills_succ_of_other hs hreload).1 hj with hj | ⟨-, -, hj⟩
      · exact hnone j hj
      · exact hfails e hk hj

theorem step (h : c.Ran steps k d) (hs : steps[k]? = some s) :
    c.Ran steps (k + 1) (d.step s).1 := by
  have henv : c.environmentAt steps (k + 1) = s.change (c.environmentAt steps k) := by
    rw [environmentAt, environmentAt, List.take_add_one, hs, List.foldl_append]
    rfl
  cases hreads : s.reads with
  | false =>
    rw [step_of_unread hreads]
    refine ⟨by rw [henv, ← h.environment], h.file, h.loads, fun settings => ?_⟩
    rw [h.cached]
    exact exists_congr fun j => by rw [fills_succ_of_unread hs hreads]
  | true =>
    have hkept : ((s.drop d).get.1).environment = d.environment ∧
        ((s.drop d).get.1).file = d.file ∧ ((s.drop d).get.1).loads = d.loads := by
      rw [get_fst]
      cases s <;> exact ⟨rfl, rfl, rfl⟩
    have hsame : s.change (c.environmentAt steps k) = c.environmentAt steps k := by
      cases s with
      | set _ _ | unset _ => exact absurd hreads (by simp [Step.reads])
      | get | reload | escaper | compile _ _ => rfl
    rw [step_of_reads hreads]
    refine ⟨by rw [henv, hsame, hkept.1, h.environment], by rw [hkept.2.1, h.file],
      by rw [hkept.2.2, h.loads], fun settings => ?_⟩
    rw [get_fst]
    dsimp only
    rcases h.seen hs hreads with ⟨j, hj, hseen⟩ | ⟨hnone, e, -, hseen⟩
    · rw [hseen]
      constructor
      · intro hsettings
        refine ⟨j, hj, ?_⟩
        cases hload : c.loadAt steps j with
        | ok settings' => simpa [hload, Except.toOption] using hsettings
        | error e => simp [hload, Except.toOption] at hsettings
      · rintro ⟨j', hj', hload⟩
        rw [hj.unique hj', hload]
        rfl
    · rw [hseen]
      refine iff_of_false (by simp [Except.toOption]) ?_
      rintro ⟨j, hj, -⟩
      exact hnone j hj

end Ran

/-- After every number of steps the cache is as the steps so far have left it. -/
theorem ran_after (hc : c.cached = none) (hk : k ≤ steps.length) :
    c.Ran steps k (c.after (steps.take k)) := by
  induction k with
  | zero => exact ran_zero hc
  | succ k ih =>
    have hs := List.getElem?_eq_getElem hk
    have hnext : c.after (steps.take (k + 1)) = ((c.after (steps.take k)).step steps[k]).1 := by
      rw [after, after, List.take_add_one, hs, List.foldl_append]
      rfl
    rw [hnext]
    exact (ih (Nat.le_of_lt hk)).step hs

theorem getElem?_run (c : Configuration) (steps : List Step) (k : Nat) :
    (c.run steps)[k]? = steps[k]?.map fun s => ((c.after (steps.take k)).step s).2 := by
  induction steps generalizing c k with
  | nil => rfl
  | cons s rest ih =>
    cases k with
    | zero => rfl
    | succ k => exact ih (c.step s).1 k

/-- A step that reads the settings sees what loaded at the step that has filled the cache, however
the variables have changed since, or fails itself to load them. The cache is filled by the first
step that loads since the start or the last reload, whatever that step answers, and in whatever way
the settings are loaded. -/
theorem run_settings (hc : c.cached = none) (hs : steps[k]? = some s) :
    (∀ settings, (c.after (steps.take (k + 1))).cached = some settings ↔
      ∃ j, c.Fills steps j (k + 1) ∧ c.loadAt steps j = .ok settings) ∧
    (∀ i j, c.Fills steps i (k + 1) → c.Fills steps j (k + 1) → i = j) ∧
    (s.reads = true →
      (∃ j, c.Fills steps j (k + 1) ∧
        (c.run steps)[k]? = some (s.answer (c.loadAt steps j))) ∨
      (∀ j, ¬ c.Fills steps j (k + 1)) ∧ ∃ e, c.loadAt steps k = .error e ∧
        (c.run steps)[k]? = some (s.answer (.error e))) := by
  obtain ⟨hk, -⟩ := List.getElem?_eq_some_iff.1 hs
  refine ⟨(ran_after hc hk).cached, fun i j => Fills.unique, fun hreads => ?_⟩
  have hanswer : (c.run steps)[k]? =
      some (s.answer (s.drop (c.after (steps.take k))).get.2) := by
    rw [getElem?_run, hs, Option.map_some, step_of_reads hreads]
  rw [hanswer]
  rcases (ran_after hc (Nat.le_of_lt hk)).seen hs hreads with ⟨j, hj, hseen⟩ | ⟨hnone, e, he, hseen⟩
  · exact Or.inl ⟨j, hj, by rw [hseen]⟩
  · exact Or.inr ⟨hnone, e, he, by rw [hseen]⟩

/-- The variables are set wrongly, then rightly, then anew. What is seen last was loaded when the
escaper was asked for. -/
def changing : List Step :=
  [.set "QB_STRICT_ARGUMENT_COUNT" "maybe", .get, .set "QB_STRICT_ARGUMENT_COUNT" "no", .escaper,
    .set "QB_ESCAPER" "oracle", .get]

theorem run_settings_changing :
    let c : Configuration := {}
    let settings : Settings := { compiler := ⟨"mysql", false⟩ }
    c.cached = none ∧ changing[5]? = some .get ∧ c.Fills changing 3 6 ∧
      (c.after (changing.take 6)).cached = some settings ∧
      (c.run changing)[5]? = some (.settings (.ok settings)) := by
  intro c settings
  have hfills : c.Fills changing 3 6 := by decide +kernel
  have hload : c.loadAt changing 3 = .ok settings := eq_ok_of_toOption (by decide +kernel)
  have hstep : changing[5]? = some .get := rfl
  obtain ⟨hcached, hunique, hseen⟩ := run_settings (c := c) rfl hstep
  refine ⟨rfl, hstep, hfills, (hcached settings).2 ⟨3, hfills, hload⟩, ?_⟩
  rcases hseen rfl with ⟨j, hj, hrun⟩ | ⟨hnone, -⟩
  · rw [hrun, hunique j 3 hj hfills, hload]
    rfl
  · exact absurd hfills (hnone 3)

end Configuration
end QueryTemplate
