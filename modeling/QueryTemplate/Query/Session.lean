import QueryTemplate.Query.Objects

/-! A run of calls to one compiler, with changes of its strictness and of the server's quoting. -/
namespace QueryTemplate

/-- A compiler among the objects of a program, and the connection that it was made for. -/
structure Session where
  heap : Heap
  compiler : Address
  connection : Address

namespace Session

inductive Step where
  | compile (template : Text) (args : Value)
  | validate (template : Text)
  | setStrict (strict : Bool)
  | setQuoting (quoting : Quoting)

inductive Answer where
  | compiled (result : Except CompileError Compilation)
  | validated (result : Except CompileError Unit)
  | strictSet (strict : Bool)
  | quotingSet (escaper : String)

/-- A new connection, an escaper for it, a formatter with this escaper, and a compiler with both. -/
def opened (table : SpecifierTable) (strict : Bool) (quoting : Quoting) : Session where
  heap := ((((Heap.empty.setConnection 0 quoting).used.setEscaper 1 0).used.setFormatter 2 1).used
    |>.setCompiler 3 ⟨1, 2, table, strict⟩).used
  connection := 0
  compiler := 3

/-- What a part of a call comes to, and the session after it. -/
def call {α : Type} (s : Session) (x : HeapProgram α) : Session × Except CompileError α :=
  let (result, heap) := ExceptT.run x s.heap
  ({ s with heap }, result)

def step (s : Session) : Step → Session × Answer
  | .compile template args =>
    let (s, result) := s.call (HeapProgram.compile s.compiler template args)
    (s, .compiled result)
  | .validate template =>
    let (s, result) := s.call (HeapProgram.validate s.compiler template)
    (s, .validated result)
  | .setStrict strict =>
    let c := s.heap.compilers s.compiler
    ({ s with heap := s.heap.setCompiler s.compiler { c with strict } }, .strictSet strict)
  | .setQuoting quoting =>
    ({ s with heap := s.heap.setConnection s.connection quoting },
      .quotingSet (s.heap.escaperAt (s.heap.compilers s.compiler).escaper).name)

def run (s : Session) : List Step → List Answer
  | [] => []
  | step :: rest => (s.step step).2 :: (s.step step).1.run rest

end Session
end QueryTemplate
