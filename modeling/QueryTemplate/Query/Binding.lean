import QueryTemplate.Assoc
import QueryTemplate.Query.Format
import QueryTemplate.Template.Segment

/-! Binding arguments to placeholders, and putting them in their places, one specifier at a time. -/
namespace QueryTemplate

/-- The values waiting for each token, in the order of the tokens' first appearance. -/
abbrev Queues := List (Text × List Value)

namespace Queues

/-- The values that wait for a token. -/
def waiting (qs : Queues) (token : Text) : List Value := (qs.lookup token).getD []

/-- Puts a value at the end of a token's queue. -/
def push (token : Text) (v : Value) (qs : Queues) : Queues :=
  Assoc.put token (qs.waiting token ++ [v]) qs

/-- Replaces what waits for a token. -/
def leave (token : Text) (left : List Value) (qs : Queues) : Queues := Assoc.put token left qs

end Queues

/-- May that many arguments be given for that many placeholders? Surplus ones only if the call is
not strict. -/
def countAccepted (strict : Bool) (expected received : Nat) : Bool :=
  decide (expected ≤ received) && !(strict && decide (expected < received))

/-- Puts the argument of each placeholder into the queue of its token. -/
def enqueue (args : List Value) : List Placeholder → Queues → Except CompileError Queues
  | [], qs => .ok qs
  | p :: rest, qs =>
    match args[p.position]? with
    | some v => enqueue args rest (qs.push p.token v)
    | none => .error (.defect .missingArgument)

/-- Binds the n-th argument to the n-th placeholder. -/
def bindArguments (strict : Bool) (template : Text) (placeholders : List Placeholder)
    (args : List Value) : Except CompileError Queues :=
  if countAccepted strict placeholders.length args.length then enqueue args placeholders []
  else .error (.refusal (.argumentCount placeholders.length args.length template))

/-- What a substitution has come to: the values not yet taken, and the segments. -/
structure Substitution (α : Type) where
  left : α
  written : Escaping (List Segment)

/-- One pass: each placeholder of the specifier's token takes the next value of the queue. -/
def Specifier.fill (s : Specifier) (e : Escaper) :
    List Value → List Segment → Substitution (List Value)
  | queue, [] => ⟨queue, pure []⟩
  | queue, .text t :: rest =>
    let r := s.fill e queue rest
    ⟨r.left, (Segment.text t :: ·) <$> r.written⟩
  | queue, .placeholder p :: rest =>
    if p.token = s.token then
      match queue with
      | [] => ⟨[], .fail (.defect .emptyQueue)⟩
      | v :: queue =>
        let text := s.format e v
        match text.result with
        | .error error => ⟨queue, ⟨text.raw, .error error⟩⟩
        | .ok t =>
          let r := s.fill e queue rest
          ⟨r.left, ⟨text.raw ++ r.written.raw, (Segment.text t :: ·) <$> r.written.result⟩⟩
    else
      let r := s.fill e queue rest
      ⟨r.left, (Segment.placeholder p :: ·) <$> r.written⟩

/-- One pass for each specifier that values wait for, in order, up to the first that fails. -/
def fillAll (e : Escaper) : List Specifier → Queues → List Segment → Substitution Queues
  | [], qs, segments => ⟨qs, pure segments⟩
  | s :: rest, qs, segments =>
    match qs.waiting s.token with
    | [] => fillAll e rest qs segments
    | v :: queue =>
      let pass := s.fill e (v :: queue) segments
      let qs := qs.leave s.token pass.left
      match pass.written.result with
      | .error error => ⟨qs, ⟨pass.written.raw, .error error⟩⟩
      | .ok segments =>
        let r := fillAll e rest qs segments
        ⟨r.left, ⟨pass.written.raw ++ r.written.raw, r.written.result⟩⟩

/-- The text of filled segments. -/
def joinFilled (segments : List Segment) : Escaping Text :=
  match Segment.join segments with
  | .ok text => pure text
  | .error index => .fail (.defect (.unfilled index))

/-- Puts the bound values in the places of the placeholders; also tells which values are left. -/
def SpecifierTable.substitute (t : SpecifierTable) (e : Escaper) (template : Text)
    (placeholders : List Placeholder) (qs : Queues) : Queues × Escaping Text :=
  let r := fillAll e t.specifiers qs (Segment.split template placeholders)
  (r.left, r.written >>= joinFilled)

end QueryTemplate
