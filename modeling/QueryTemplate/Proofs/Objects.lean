import QueryTemplate.Proofs.Passes
import QueryTemplate.Proofs.Programs
import QueryTemplate.Query.Objects

/-! What a call makes of the objects that it finds: it gives what a compiler that keeps nothing
gives, and leaves every object that was there before as it was. -/
namespace QueryTemplate

open Program

namespace Queues

variable {qs : Queues} {token : Text}

@[simp] theorem leave_leave (token : Text) (left left' : List Value) (qs : Queues) :
    (qs.leave token left).leave token left' = qs.leave token left' :=
  Assoc.put_put token left left' qs

/-- Does a token have a queue, be it an empty one? -/
def Has (qs : Queues) (token : Text) : Prop := (qs.lookup token).isSome

theorem has_of_waiting {v : Value} {rest : List Value} (h : qs.waiting token = v :: rest) :
    qs.Has token := by
  unfold Has
  cases hqs : qs.lookup token with
  | none => simp [waiting, hqs] at h
  | some vs => rfl

theorem has_leave (token : Text) (left : List Value) (qs : Queues) :
    (qs.leave token left).Has token := by
  simp [Has, leave, Assoc.lookup_put]

theorem leave_waiting (h : qs.Has token) : qs.leave token (qs.waiting token) = qs := by
  obtain ⟨vs, hvs⟩ := Option.isSome_iff_exists.1 h
  have hwaiting : qs.waiting token = vs := by rw [waiting, hvs, Option.getD_some]
  rw [hwaiting]
  exact Assoc.put_of_lookup hvs

end Queues

namespace Heap

section Put

variable {α : Type} (a : Address) (objects : Address → α)

@[simp] theorem put_same (x : α) : put a x objects a = x := if_pos rfl

theorem put_of_ne {b : Address} (h : b ≠ a) (x : α) : put a x objects b = objects b := if_neg h

@[simp] theorem put_put (x y : α) : put a y (put a x objects) = put a y objects := by
  funext b
  unfold put
  split <;> rfl

@[simp] theorem put_eq_self : put a (objects a) objects = objects := by
  funext b
  unfold put
  split
  next h => rw [h]
  next => rfl

end Put

section Read

variable (h : Heap) (a : Address) (qs : Queues) (segments : List Segment)

@[simp] theorem queues_setQueues : (h.setQueues a qs).queues a = qs := put_same ..

@[simp] theorem queues_setSegments : (h.setSegments a segments).queues = h.queues := rfl

@[simp] theorem segments_setQueues : (h.setQueues a qs).segments = h.segments := rfl

@[simp] theorem segments_setSegments : (h.setSegments a segments).segments a = segments :=
  put_same ..

@[simp] theorem setQueues_setQueues (qs' : Queues) :
    (h.setQueues a qs).setQueues a qs' = h.setQueues a qs' := by
  simp [setQueues]

@[simp] theorem setSegments_setSegments (segments' : List Segment) :
    (h.setSegments a segments).setSegments a segments' = h.setSegments a segments' := by
  simp [setSegments]

@[simp] theorem setQueues_queues : h.setQueues a (h.queues a) = h := by simp [setQueues]

@[simp] theorem setSegments_segments : h.setSegments a (h.segments a) = h := by simp [setSegments]

/-- Queues from which nothing more is taken, and segments that stay. -/
theorem untouched {h : Heap} {q g : Address} {token : Text} (hq : (h.queues q).Has token) :
    (h.setQueues q ((h.queues q).leave token ((h.queues q).waiting token))).setSegments g
      (h.segments g) = h := by
  rw [Queues.leave_waiting hq, setQueues_queues, setSegments_segments]

end Read

/-- The compiler that the objects at an address and behind it make up at the time. -/
def compilerAt (h : Heap) (a : Address) : Compiler :=
  let c := h.compilers a
  ⟨h.escaperAt (h.formatters c.formatter), c.table, c.strict⟩

/-- All objects that were there are as they were. -/
structure Keeps (h h' : Heap) : Prop where
  connections : h'.connections = h.connections
  escapers : h'.escapers = h.escapers
  formatters : h'.formatters = h.formatters
  compilers : h'.compilers = h.compilers
  next : h.next ≤ h'.next
  queues : ∀ a < h.next, h'.queues a = h.queues a
  segments : ∀ a < h.next, h'.segments a = h.segments a

namespace Keeps

variable {h h' : Heap} {a : Address}

theorem refl (h : Heap) : h.Keeps h :=
  ⟨rfl, rfl, rfl, rfl, Nat.le_refl _, fun _ _ => rfl, fun _ _ => rfl⟩

theorem used (hk : h.Keeps h') : h.Keeps h'.used :=
  { hk with next := Nat.le_succ_of_le hk.next }

/-- New queues can be changed. -/
theorem setQueues (hk : h.Keeps h') (ha : h.next ≤ a) (qs : Queues) :
    h.Keeps (h'.setQueues a qs) where
  __ := hk
  queues b hb := by
    have hne : b ≠ a := Nat.ne_of_lt (Nat.lt_of_lt_of_le hb ha)
    exact (put_of_ne a _ hne qs).trans (hk.queues b hb)

theorem setSegments (hk : h.Keeps h') (ha : h.next ≤ a) (segments : List Segment) :
    h.Keeps (h'.setSegments a segments) where
  __ := hk
  segments b hb := by
    have hne : b ≠ a := Nat.ne_of_lt (Nat.lt_of_lt_of_le hb ha)
    exact (put_of_ne a _ hne segments).trans (hk.segments b hb)

theorem escaperAt (hk : h.Keeps h') (a : Address) : h'.escaperAt a = h.escaperAt a := by
  unfold Heap.escaperAt
  rw [hk.connections, hk.escapers]

theorem compilerAt (hk : h.Keeps h') (a : Address) : h'.compilerAt a = h.compilerAt a := by
  simp only [Heap.compilerAt, hk.escaperAt, hk.formatters, hk.compilers]

end Keeps

end Heap

namespace HeapProgram

variable {h : Heap} {f q g a : Address} {s : Specifier}

/-- Queues that are filled with the arguments of placeholders, as far as there are any. -/
theorem exec_fillQueues (q : Address) (args : List Value) (ps : List Placeholder) (h : Heap) :
    ∃ qs, exec (fillQueues q args ps) h =
        ((enqueue args ps (h.queues q)).map fun _ => (), h.setQueues q qs) ∧
      ∀ filled, enqueue args ps (h.queues q) = .ok filled → qs = filled := by
  induction ps generalizing h with
  | nil =>
    refine ⟨h.queues q, ?_, fun filled hfilled => Except.ok.inj hfilled⟩
    rw [Heap.setQueues_queues]
    rfl
  | cons p ps ih =>
    cases hp : args[p.position]? with
    | none =>
      refine ⟨h.queues q, ?_, fun filled hfilled => ?_⟩
      · rw [Heap.setQueues_queues, fillQueues, enqueue, hp]
        rfl
      · rw [enqueue, hp] at hfilled
        cases hfilled
    | some v =>
      obtain ⟨qs, hexec, hok⟩ := ih (h.setQueues q ((h.queues q).push p.token v))
      rw [Heap.queues_setQueues] at hexec hok
      refine ⟨qs, ?_, fun filled hfilled => hok filled ?_⟩
      · rw [fillQueues, enqueue, hp]
        dsimp only
        rw [exec_bind_of_ok (exec_modify _ h), hexec, Heap.setQueues_setQueues]
      · rwa [enqueue, hp] at hfilled

section Pass

theorem exec_format (v : Value) :
    exec (format f s v) h = ((s.format (h.escaperAt (h.formatters f)) v).result, h) := by
  unfold format
  rw [exec_bind_of_ok (exec_get h)]
  cases (s.format (h.escaperAt (h.formatters f)) v).result <;> rfl

theorem exec_take {token : Text} {v : Value} {rest : List Value}
    (hv : (h.queues q).waiting token = v :: rest) :
    exec (take q token) h = (.ok v, h.setQueues q ((h.queues q).leave token rest)) := by
  unfold take
  rw [exec_bind_of_ok (exec_get h), hv]
  rfl

theorem exec_take_of_empty {token : Text} (hnone : (h.queues q).waiting token = []) :
    exec (take q token) h = (.error (.defect .emptyQueue), h) := by
  unfold take
  rw [exec_bind_of_ok (exec_get h), hnone]
  rfl

variable {done rest : List Segment} {p : Placeholder}

theorem exec_fillAt_text {t : Text} (hg : h.segments g = done ++ .text t :: rest) :
    exec (fillAt f q g s done.length) h = (.ok (), h) := by
  unfold fillAt
  rw [exec_bind_of_ok (exec_get h), hg]
  simp

theorem exec_fillAt_other (hg : h.segments g = done ++ .placeholder p :: rest)
    (hp : p.token ≠ s.token) : exec (fillAt f q g s done.length) h = (.ok (), h) := by
  unfold fillAt
  rw [exec_bind_of_ok (exec_get h), hg]
  simp [hp]

theorem exec_fillAt_own (hg : h.segments g = done ++ .placeholder p :: rest)
    (hp : p.token = s.token) :
    exec (fillAt f q g s done.length) h = exec (do
      let v ← take q s.token
      let text ← format f s v
      modify fun h => h.setSegments g ((h.segments g).set done.length (.text text))) h := by
  unfold fillAt
  rw [exec_bind_of_ok (exec_get h), hg]
  simp [hp]

theorem exec_fillAt_of_empty (hg : h.segments g = done ++ .placeholder p :: rest)
    (hp : p.token = s.token) (hnone : (h.queues q).waiting s.token = []) :
    exec (fillAt f q g s done.length) h = (.error (.defect .emptyQueue), h) := by
  rw [exec_fillAt_own hg hp, exec_bind_of_error (exec_take_of_empty hnone)]

/-- A value that is refused is taken out of its queue all the same. -/
theorem exec_fillAt_of_error {v : Value} {queue : List Value} {error : CompileError}
    (hg : h.segments g = done ++ .placeholder p :: rest) (hp : p.token = s.token)
    (hv : (h.queues q).waiting s.token = v :: queue)
    (hr : (s.format (h.escaperAt (h.formatters f)) v).result = .error error) :
    exec (fillAt f q g s done.length) h =
      (.error error, h.setQueues q ((h.queues q).leave s.token queue)) := by
  have htext : exec (format f s v) (h.setQueues q ((h.queues q).leave s.token queue)) =
      (.error error, h.setQueues q ((h.queues q).leave s.token queue)) := by
    rw [← hr]
    exact exec_format v
  rw [exec_fillAt_own hg hp, exec_bind_of_ok (exec_take hv), exec_bind_of_error htext]

theorem exec_fillAt_of_ok {v : Value} {queue : List Value} {t : Text}
    (hg : h.segments g = done ++ .placeholder p :: rest) (hp : p.token = s.token)
    (hv : (h.queues q).waiting s.token = v :: queue)
    (hr : (s.format (h.escaperAt (h.formatters f)) v).result = .ok t) :
    exec (fillAt f q g s done.length) h = (.ok (),
      (h.setQueues q ((h.queues q).leave s.token queue)).setSegments g
        (done ++ .text t :: rest)) := by
  let taken := h.setQueues q ((h.queues q).leave s.token queue)
  have htext : exec (format f s v) taken = (.ok t, taken) := by
    rw [← hr]
    exact exec_format v
  have hset : (taken.segments g).set done.length (.text t) = done ++ .text t :: rest := by
    have hsame : taken.segments g = done ++ .placeholder p :: rest := hg
    simp [hsame]
  rw [exec_fillAt_own hg hp, exec_bind_of_ok (exec_take hv), exec_bind_of_ok htext, exec_modify,
    hset]

/-- Does a run change no more than queues and segments, and leave them so? The segments of one that
fails may be half filled. -/
def EndsAs (x : Except CompileError Unit × Heap) (h : Heap) (q g : Address) (left : Queues)
    (result : Except CompileError (List Segment)) : Prop :=
  ∃ segments, x = (result.map fun _ => (), (h.setQueues q left).setSegments g segments) ∧
    ∀ filled, result = .ok filled → segments = filled

namespace EndsAs

variable {x : Except CompileError Unit × Heap} {qs left : Queues} {segments : List Segment}
  {result : Except CompileError (List Segment)}

theorem of_ok (hx : x = (.ok (), (h.setQueues q left).setSegments g segments)) :
    EndsAs x h q g left (.ok segments) :=
  ⟨segments, hx, fun _ hfilled => Except.ok.inj hfilled⟩

theorem of_error {error : CompileError} (hx : x = (.error error, h.setQueues q left)) :
    EndsAs x h q g left (.error error) := by
  refine ⟨h.segments g, ?_, fun filled hfilled => absurd hfilled (by simp)⟩
  have hsame : (h.setQueues q left).setSegments g (h.segments g) = h.setQueues q left :=
    (h.setQueues q left).setSegments_segments g
  rw [hx, hsame]
  rfl

/-- What was done before is counted in. -/
theorem of_set (hx : EndsAs x ((h.setQueues q qs).setSegments g segments) q g left result) :
    EndsAs x h q g left result := by
  obtain ⟨segments', hend, hok⟩ := hx
  refine ⟨segments', ?_, hok⟩
  rw [hend]
  simp [Heap.setQueues, Heap.setSegments]

end EndsAs

/-- The rounds of a pass from a segment on: what they make of it and of those behind it is what
`Specifier.fill` makes of them. -/
theorem exec_fillFrom (todo done : List Segment) (h : Heap) (hq : (h.queues q).Has s.token)
    (hg : h.segments g = done ++ todo) :
    let r := s.fill (h.escaperAt (h.formatters f)) ((h.queues q).waiting s.token) todo
    EndsAs (exec (fillFrom f q g s done.length todo.length) h) h q g
      ((h.queues q).leave s.token r.left) (r.written.result.map (done ++ ·)) := by
  induction todo generalizing done h with
  | nil =>
    have hsame := Heap.untouched (g := g) hq
    rw [hg] at hsame
    exact EndsAs.of_ok (Prod.ext rfl hsame.symm)
  | cons segment todo ih =>
    rw [List.length_cons, fillFrom]
    have hdone (segment' : Segment) (result : Except CompileError (List Segment)) :
        result.map ((done ++ [segment']) ++ ·) =
          ((segment' :: ·) <$> result).map (done ++ ·) := by
      cases result <;> simp [Except.map, Functor.map]
    have hleft (hround : exec (fillAt f q g s done.length) h = (.ok (), h)) :
        let r := s.fill (h.escaperAt (h.formatters f)) ((h.queues q).waiting s.token) todo
        EndsAs (exec (do fillAt f q g s done.length; fillFrom f q g s (done.length + 1) todo.length) h)
          h q g ((h.queues q).leave s.token r.left)
          (((segment :: ·) <$> r.written.result).map (done ++ ·)) := by
      have hrest := ih (done ++ [segment]) h hq (by simpa using hg)
      simp only [List.length_append, List.length_singleton, hdone] at hrest
      rwa [exec_bind_of_ok hround]
    cases segment with
    | text t =>
      simpa only [fill_text, Escaping.result_map] using hleft (exec_fillAt_text hg)
    | placeholder p =>
      by_cases hp : p.token = s.token
      case neg =>
        simpa only [fill_other hp, Escaping.result_map] using hleft (exec_fillAt_other hg hp)
      cases hv : (h.queues q).waiting s.token with
      | nil =>
        rw [fill_own_of_empty hp]
        refine EndsAs.of_error ?_
        have hsame := Queues.leave_waiting hq
        rw [hv] at hsame
        rw [exec_bind_of_error (exec_fillAt_of_empty hg hp hv), hsame, Heap.setQueues_queues]
      | cons v queue =>
        cases hr : (s.format (h.escaperAt (h.formatters f)) v).result with
        | error error =>
          rw [fill_own_of_error hp hr]
          exact EndsAs.of_error (exec_bind_of_error (exec_fillAt_of_error hg hp hv hr) _)
        | ok t =>
          rw [fill_own_of_ok hp hr, exec_bind_of_ok (exec_fillAt_of_ok hg hp hv hr)]
          have hrest := ih (done ++ [.text t])
            ((h.setQueues q ((h.queues q).leave s.token queue)).setSegments g
              (done ++ .text t :: todo))
            (by simpa using Queues.has_leave ..) (by simp)
          have hwaiting : ((h.queues q).leave s.token queue).waiting s.token = queue := by
            rw [Queues.waiting_leave, if_pos rfl]
          simp only [Heap.queues_setSegments, Heap.queues_setQueues, hwaiting, Queues.leave_leave,
            List.length_append, List.length_singleton, hdone] at hrest
          exact hrest.of_set

end Pass

/-- The passes of several specifiers leave queues and segments as `fillAll` does. -/
theorem exec_passes (specs : List Specifier) (h : Heap) :
    let r := fillAll (h.escaperAt (h.formatters f)) specs (h.queues q) (h.segments g)
    EndsAs (exec (passes f q g specs) h) h q g r.left r.written.result := by
  induction specs generalizing h with
  | nil =>
    have hsame : (h.setQueues q (h.queues q)).setSegments g (h.segments g) = h := by
      rw [Heap.setQueues_queues, Heap.setSegments_segments]
    exact EndsAs.of_ok (Prod.ext rfl hsame.symm)
  | cons s rest ih =>
    rw [passes]
    cases hv : (h.queues q).waiting s.token with
    | nil =>
      have hpass : exec (pass f q g s) h = (.ok (), h) := by
        unfold pass
        rw [exec_bind_of_ok (exec_get h), hv]
        rfl
      simpa only [fillAll, hv, exec_bind_of_ok hpass] using ih h
    | cons v queue =>
      have hpass : exec (pass f q g s) h =
          exec (fillFrom f q g s ([] : List Segment).length (h.segments g).length) h := by
        unfold pass
        rw [exec_bind_of_ok (exec_get h), hv]
        rfl
      obtain ⟨segments, hend, hok⟩ := exec_fillFrom (h.segments g) [] h
        (Queues.has_of_waiting hv) rfl
      rw [← hpass, hv] at hend
      rw [hv] at hok
      simp only [fillAll, hv]
      generalize hr : s.fill (h.escaperAt (h.formatters f)) (v :: queue) (h.segments g) = r
      rw [hr] at hend hok
      obtain ⟨left, raw, result⟩ := r
      cases result with
      | error error =>
        exact ⟨segments, exec_bind_of_error hend _, fun filled hfilled => absurd hfilled (by simp)⟩
      | ok filled =>
        obtain rfl : segments = filled := hok filled rfl
        rw [exec_bind_of_ok hend]
        have hrest := ih ((h.setQueues q ((h.queues q).leave s.token left)).setSegments g segments)
        simp only [Heap.queues_setSegments, Heap.queues_setQueues, Heap.segments_setSegments] at hrest
        exact hrest.of_set

theorem exec_newQueues (h : Heap) :
    exec newQueues h = (.ok h.next, (h.setQueues h.next []).used) := rfl

/-- Binding changes nothing but the queues that it makes. -/
theorem exec_bindArguments (c : CompilerObject) (template : Text) (ps : List Placeholder)
    (args : List Value) (h : Heap) :
    ∃ h', exec (HeapProgram.bind c template ps args) h =
        ((bindArguments c.strict template ps args).map fun _ => h.next, h') ∧
      h.Keeps h' ∧
      ∀ qs, bindArguments c.strict template ps args = .ok qs → h'.queues h.next = qs := by
  unfold HeapProgram.bind bindArguments
  by_cases hcount : countAccepted c.strict ps.length args.length = true
  case neg =>
    rw [if_neg hcount, if_neg hcount]
    exact ⟨h, rfl, Heap.Keeps.refl h, fun qs hqs => absurd hqs (by simp)⟩
  rw [if_pos hcount, if_pos hcount]
  let start := (h.setQueues h.next []).used
  have hstart : start.queues h.next = [] := Heap.queues_setQueues ..
  obtain ⟨qs, hexec, hok⟩ := exec_fillQueues h.next args ps start
  rw [hstart] at hexec hok
  refine ⟨start.setQueues h.next qs, ?_, ?_, fun filled hfilled => ?_⟩
  · rw [exec_bind_of_ok (exec_newQueues h), exec_bind, hexec]
    cases enqueue args ps [] <;> rfl
  · exact ((Heap.Keeps.refl h).setQueues (Nat.le_refl _) _).used.setQueues (Nat.le_refl _) _
  · rw [Heap.queues_setQueues]
    exact hok filled hfilled

/-- Substitution changes nothing but the queues that it empties and the segments that it makes. -/
theorem exec_substitute (c : CompilerObject) (template : Text) (ps : List Placeholder) (h : Heap) :
    ∃ h', exec (substitute c template ps q) h =
        ((c.table.substitute (h.escaperAt (h.formatters c.formatter)) template ps
          (h.queues q)).2.result, h') ∧
      ∀ before : Heap, before.Keeps h → before.next ≤ q → before.Keeps h' := by
  let start := (h.setSegments h.next (Segment.split template ps)).used
  have hnew : exec (newSegments (Segment.split template ps)) h = (.ok h.next, start) := rfl
  have hstart : start.segments h.next = Segment.split template ps := Heap.segments_setSegments ..
  obtain ⟨segments, hend, hok⟩ := exec_passes (f := c.formatter) (q := q) (g := h.next)
    c.table.specifiers start
  rw [hstart] at hend hok
  unfold SpecifierTable.substitute
  generalize hr : fillAll (h.escaperAt (h.formatters c.formatter)) c.table.specifiers (h.queues q)
    (Segment.split template ps) = r
  have hsame : fillAll (start.escaperAt (start.formatters c.formatter)) c.table.specifiers
    (start.queues q) (Segment.split template ps) = r := hr
  rw [hsame] at hend hok
  refine ⟨(start.setQueues q r.left).setSegments h.next segments, ?_, fun before hk hq => ?_⟩
  · unfold substitute
    rw [exec_bind_of_ok hnew, Escaping.result_bind]
    cases hresult : r.written.result with
    | error error =>
      rw [hresult] at hend
      exact exec_bind_of_error hend _
    | ok filled =>
      rw [hresult] at hend
      rw [exec_bind_of_ok hend, exec_bind_of_ok (exec_get _), Heap.segments_setSegments,
        hok filled hresult]
      unfold joinFilled
      cases hjoin : Segment.join filled <;> simp [Bind.bind, Except.bind, hjoin]
  · exact ((hk.setSegments hk.next _).used.setQueues hq _).setSegments hk.next _

/-- A validation changes nothing. -/
theorem exec_validate (template : Text) (h : Heap) :
    exec (validate a template) h = ((h.compilerAt a).validate template, h) := by
  unfold validate
  rw [exec_bind_of_ok (exec_get h)]
  unfold Compiler.validate
  dsimp only [Heap.compilerAt]
  cases (h.compilers a).table.unknown template <;> rfl

/-- A call gives what its compiler, put together from the objects as they are, gives, and leaves
every object that was there as it was. -/
theorem exec_compile (template : Text) (args : Value) (h : Heap) :
    ∃ h', exec (compile a template args) h =
        (((h.compilerAt a).compileWith template args).result, h') ∧ h.Keeps h' := by
  let c := h.compilers a
  unfold compile Compiler.compileWith
  cases args.items? with
  | none => exact ⟨h, rfl, Heap.Keeps.refl h⟩
  | some items =>
    dsimp only
    unfold Compiler.compile
    cases hvalid : (h.compilerAt a).validate template with
    | error error =>
      have hexec : exec (validate a template) h = (.error error, h) := by
        rw [exec_validate, hvalid]
      exact ⟨h, exec_bind_of_error hexec _, Heap.Keeps.refl h⟩
    | ok accepted =>
      have hexec : exec (validate a template) h = (.ok accepted, h) := by
        rw [exec_validate, hvalid]
      rw [exec_bind_of_ok hexec, exec_bind_of_ok (exec_get h)]
      dsimp only
      obtain ⟨bound, hbind, hkeeps, hqueues⟩ := exec_bindArguments c template
        (c.table.scan template) items h
      cases hb : bindArguments c.strict template (c.table.scan template) items with
      | error error =>
        have hsubstituted : (h.compilerAt a).substituted template items = .fail error := by
          unfold Compiler.substituted
          dsimp only [Heap.compilerAt]
          rw [hb]
        rw [hb] at hbind
        rw [hsubstituted]
        exact ⟨bound, exec_bind_of_error hbind _, hkeeps⟩
      | ok qs =>
        obtain ⟨final, hexec, hfinal⟩ := exec_substitute (q := h.next) c template
          (c.table.scan template) bound
        have hescaper : bound.escaperAt (bound.formatters c.formatter) =
            (h.compilerAt a).escaper := by
          rw [hkeeps.escaperAt, hkeeps.formatters]
          rfl
        have hsubstituted : (h.compilerAt a).substituted template items =
            (c.table.substitute (h.compilerAt a).escaper template (c.table.scan template) qs).2 := by
          unfold Compiler.substituted
          dsimp only [Heap.compilerAt]
          rw [hb]
        rw [hb] at hbind
        rw [hescaper, hqueues qs hb, ← hsubstituted] at hexec
        refine ⟨final, ?_, hfinal h hkeeps (Nat.le_refl _)⟩
        rw [exec_bind_of_ok hbind, exec_bind, hexec]
        cases ((h.compilerAt a).substituted template items).result <;> rfl

end HeapProgram
end QueryTemplate
