import QueryTemplate.Proofs.Objects
import QueryTemplate.Query.Session

/-! What a call in a session sees of the steps before it: the settings made last, and nothing of the
queues and segments that earlier calls left behind. -/
namespace QueryTemplate
namespace Session

namespace Step

/-- The strictness that a step sets. -/
def strict? : Step → Option Bool
  | .setStrict strict => some strict
  | _ => none

/-- The quoting that a step sets. -/
def quoting? : Step → Option Quoting
  | .setQuoting quoting => some quoting
  | _ => none

/-- Does a step call the compiler, rather than change a setting? -/
def isCall : Step → Bool
  | .compile _ _ | .validate _ => true
  | .setStrict _ | .setQuoting _ => false

/-- What a compiler that keeps nothing answers. -/
def answer (c : Compiler) : Step → Answer
  | .compile template args => .compiled (c.compileWith template args).result
  | .validate template => .validated (c.validate template)
  | .setStrict strict => .strictSet strict
  | .setQuoting _ => .quotingSet c.escaper.name

/-- A compiler with the setting that a step makes. -/
def set (c : Compiler) : Step → Compiler
  | .setStrict strict => { c with strict }
  | .setQuoting quoting => { c with escaper := .connection quoting }
  | .compile _ _ | .validate _ => c

theorem set_of_isCall (c : Compiler) {step : Step} (h : step.isCall = true) : step.set c = c := by
  cases step with
  | compile template args => rfl
  | validate template => rfl
  | setStrict strict => cases h
  | setQuoting quoting => cases h

end Step

/-- What a compiler that keeps nothing but its settings answers to some steps. -/
def answers (c : Compiler) : List Step → List Answer
  | [] => []
  | step :: rest => step.answer c :: answers (step.set c) rest

/-- The strictness that is in force after some steps: what they set last, or that of the start. -/
def strictAfter (strict : Bool) (steps : List Step) : Bool :=
  (steps.filterMap Step.strict?).getLastD strict

def quotingAfter (quoting : Quoting) (steps : List Step) : Quoting :=
  (steps.filterMap Step.quoting?).getLastD quoting

/-- The entries of a list at the places that are kept. -/
def kept {α : Type} (keep : Nat → Bool) : List α → List α
  | [] => []
  | a :: rest =>
    let others := kept (fun i => keep (i + 1)) rest
    if keep 0 then a :: others else others

section Settings

variable {c : Compiler} {steps : List Step} {i : Nat}

theorem foldl_set (table : SpecifierTable) (strict : Bool) (quoting : Quoting)
    (steps : List Step) :
    steps.foldl (fun c step => step.set c) ⟨.connection quoting, table, strict⟩ =
      ⟨.connection (quotingAfter quoting steps), table, strictAfter strict steps⟩ := by
  induction steps generalizing strict quoting with
  | nil => rfl
  | cons step rest ih =>
    cases step with
    | compile template args => exact ih strict quoting
    | validate template => exact ih strict quoting
    | setStrict strict' =>
      have hlast : strictAfter strict (.setStrict strict' :: rest) = strictAfter strict' rest :=
        List.getLastD_cons ..
      rw [hlast]
      exact ih strict' quoting
    | setQuoting quoting' =>
      have hlast : quotingAfter quoting (.setQuoting quoting' :: rest) =
          quotingAfter quoting' rest := List.getLastD_cons ..
      rw [hlast]
      exact ih strict quoting'

theorem getElem?_answers (c : Compiler) (steps : List Step) (i : Nat) :
    (answers c steps)[i]? =
      steps[i]?.map (Step.answer ((steps.take i).foldl (fun c step => step.set c) c)) := by
  induction steps generalizing c i with
  | nil => rfl
  | cons step rest ih =>
    cases i with
    | zero => rfl
    | succ i => exact ih (step.set c) i

theorem answers_kept (c : Compiler) (steps : List Step) (keep : Nat → Bool)
    (hcalls : ∀ (i : Nat) step, steps[i]? = some step → keep i = false → step.isCall = true) :
    answers c (kept keep steps) = kept keep (answers c steps) := by
  induction steps generalizing c keep with
  | nil => rfl
  | cons step rest ih =>
    have hrest : answers (step.set c) (kept (fun i => keep (i + 1)) rest) =
        kept (fun i => keep (i + 1)) (answers (step.set c) rest) :=
      ih (step.set c) _ fun i other hi => hcalls (i + 1) other hi
    cases hkeep : keep 0 with
    | true => simpa only [kept, answers, hkeep, if_true, List.cons.injEq, true_and] using hrest
    | false =>
      -- What is left out is a call, so that the rest starts with the same settings.
      have hsame := Step.set_of_isCall c (hcalls 0 step rfl hkeep)
      simpa only [kept, answers, hkeep, Bool.false_eq_true, if_false, hsame] using hrest

end Settings

/-- The compiler that the objects of a session make up at the time. -/
def now (s : Session) : Compiler := s.heap.compilerAt s.compiler

/-- Does the compiler write through the session's connection? -/
def Wired (s : Session) : Prop :=
  let c := s.heap.compilers s.compiler
  s.heap.escapers (s.heap.formatters c.formatter) = s.connection

variable {s : Session}

theorem wired_opened (table : SpecifierTable) (strict : Bool) (quoting : Quoting) :
    (opened table strict quoting).Wired := rfl

theorem now_opened (table : SpecifierTable) (strict : Bool) (quoting : Quoting) :
    (opened table strict quoting).now = ⟨.connection quoting, table, strict⟩ := rfl

/-- A part of a call that keeps all objects changes nothing that a later call sees. -/
theorem Wired.of_keeps (hs : s.Wired) {heap : Heap} (hk : s.heap.Keeps heap) :
    let s' : Session := { s with heap }
    s'.Wired ∧ s'.now = s.now := by
  refine ⟨?_, hk.compilerAt s.compiler⟩
  simp only [Wired, hk.compilers, hk.formatters, hk.escapers]
  exact hs

/-- A step is answered as by a compiler that keeps nothing, and leaves the settings as that one. -/
theorem step_of_wired (hs : s.Wired) (step : Step) :
    (s.step step).2 = step.answer s.now ∧ (s.step step).1.Wired ∧
      (s.step step).1.now = step.set s.now := by
  cases step with
  | compile template args =>
    obtain ⟨heap, hexec, hk⟩ := HeapProgram.exec_compile (a := s.compiler) template args s.heap
    have hcall : s.call (HeapProgram.compile s.compiler template args) =
        ({ s with heap }, (s.now.compileWith template args).result) :=
      congrArg (fun r => ({ s with heap := r.2 }, r.1)) hexec
    have hstep : s.step (.compile template args) =
        ({ s with heap }, .compiled (s.now.compileWith template args).result) :=
      congrArg (fun r => (r.1, Answer.compiled r.2)) hcall
    rw [hstep]
    exact ⟨rfl, hs.of_keeps hk⟩
  | validate template =>
    have hcall : s.call (HeapProgram.validate s.compiler template) =
        (s, s.now.validate template) :=
      congrArg (fun r => ({ s with heap := r.2 }, r.1)) (HeapProgram.exec_validate template s.heap)
    have hstep : s.step (.validate template) = (s, .validated (s.now.validate template)) :=
      congrArg (fun r => (r.1, Answer.validated r.2)) hcall
    rw [hstep]
    exact ⟨rfl, hs, rfl⟩
  | setStrict strict =>
    refine ⟨rfl, ?_, ?_⟩
    · simpa [Wired, step, Heap.setCompiler] using hs
    · simp [now, step, Heap.compilerAt, Heap.setCompiler, Heap.escaperAt, Step.set]
  | setQuoting quoting =>
    refine ⟨rfl, hs, ?_⟩
    have hconnection : s.heap.escapers (s.heap.formatters (s.heap.compilers s.compiler).formatter) =
        s.connection := hs
    simp [now, step, Heap.compilerAt, Heap.setConnection, Heap.escaperAt, Step.set, hconnection]

/-- What a call that fails leaves behind: an empty queue, and one of two segments filled. -/
example :
    let failing := Step.compile "?d?d".toList (.list [.int 1, .text ['x']])
    let heap := ((opened .standard true .backslash).step failing).1.heap
    heap.queues 4 = [("?d".toList, [])] ∧
      heap.segments 5 = [.text ['1'], .placeholder ⟨"?d".toList, some .integer, 1, 2, 4⟩] :=
  ⟨rfl, rfl⟩

/-- A session answers as a compiler that keeps nothing but its settings. -/
theorem run_of_wired (hs : s.Wired) (steps : List Step) : s.run steps = answers s.now steps := by
  induction steps generalizing s with
  | nil => rfl
  | cons step rest ih =>
    obtain ⟨hanswer, hwired, hnow⟩ := step_of_wired hs step
    rw [run, answers, hanswer, ih hwired, hnow]

/-- Each call gives what a newly opened compiler with the settings made last gives, and to leave out
calls, whatever came of them, changes no other answer. -/
theorem run_independent (table : SpecifierTable) (strict : Bool) (quoting : Quoting)
    (steps : List Step) :
    let s := opened table strict quoting
    (∀ (i : Nat) step, steps[i]? = some step →
        let fresh := opened table (strictAfter strict (steps.take i))
          (quotingAfter quoting (steps.take i))
        (s.run steps)[i]? = some (fresh.step step).2) ∧
      (∀ (i : Nat) template args, steps[i]? = some (.compile template args) →
        let c : Compiler := ⟨.connection (quotingAfter quoting (steps.take i)), table,
          strictAfter strict (steps.take i)⟩
        (s.run steps)[i]? = some (.compiled (c.compileWith template args).result)) ∧
      (∀ (i : Nat) template, steps[i]? = some (.validate template) →
        let c : Compiler := ⟨.connection (quotingAfter quoting (steps.take i)), table,
          strictAfter strict (steps.take i)⟩
        (s.run steps)[i]? = some (.validated (c.validate template))) ∧
      ∀ keep : Nat → Bool,
        (∀ (i : Nat) step, steps[i]? = some step → keep i = false → step.isCall = true) →
          s.run (kept keep steps) = kept keep (s.run steps) := by
  intro s
  have hrun (steps' : List Step) : s.run steps' = answers s.now steps' :=
    run_of_wired (wired_opened table strict quoting) steps'
  have hanswer (i : Nat) (step : Step) (hi : steps[i]? = some step) :
      (s.run steps)[i]? = some (step.answer ⟨.connection (quotingAfter quoting (steps.take i)),
        table, strictAfter strict (steps.take i)⟩) := by
    rw [hrun, getElem?_answers, hi, now_opened, foldl_set]
    rfl
  refine ⟨fun i step hi => ?_, fun i template args hi => hanswer i _ hi,
    fun i template hi => hanswer i _ hi, fun keep hcalls => ?_⟩
  · intro fresh
    have hfresh : (fresh.step step).2 = step.answer fresh.now :=
      (step_of_wired (wired_opened ..) step).1
    rw [hanswer i step hi, hfresh, now_opened]
  · rw [hrun, hrun, answers_kept _ _ _ hcalls]

/-- The call left out fails with one of its two numbers written. The others are made before and
after a change of both settings. -/
theorem run_independent_switched :
    let s := opened .standard true .backslash
    let failing := Step.compile "?d ?d".toList (.list [.int 1, .text ['x']])
    let quoted := Step.compile ['?'] (.list [.text ['\'']])
    let surplus := Step.compile "?d".toList (.list [.int 1, .int 2])
    let steps := [failing, quoted, surplus, .setQuoting .doubled, .setStrict false, quoted, surplus]
    (s.run steps)[0]? = some (.compiled (.error (.refusal (.invalidValue "?d".toList "str")))) ∧
      (s.run steps)[2]? = some (.compiled (.error (.refusal (.argumentCount 1 2 "?d".toList)))) ∧
      (∃ r, (s.run steps)[1]? = some (.compiled (.ok r)) ∧ r.query = "'\\''".toList) ∧
      (∃ r, (s.run steps)[5]? = some (.compiled (.ok r)) ∧ r.query = "''''".toList) ∧
      (∃ r, (s.run steps)[6]? = some (.compiled (.ok r)) ∧ r.query = ['1']) ∧
      s.run (steps.drop 1) = (s.run steps).drop 1 := by
  intro s failing quoted surplus steps
  obtain ⟨-, hcompile, -, hkept⟩ := run_independent .standard true .backslash steps
  have hcalls : ∀ (i : Nat) step, steps[i]? = some step → (i != 0) = false →
      step.isCall = true := by
    intro i step hstep hi
    obtain rfl : i = 0 := by simpa using hi
    obtain rfl : failing = step := Option.some.inj hstep
    rfl
  exact ⟨hcompile 0 _ _ rfl, hcompile 2 _ _ rfl, ⟨_, hcompile 1 _ _ rfl, by decide⟩,
    ⟨_, hcompile 5 _ _ rfl, by decide⟩, ⟨_, hcompile 6 _ _ rfl, by decide⟩, hkept (· != 0) hcalls⟩

end Session
end QueryTemplate
