import QueryTemplate.Query.Compile

/-! Compilers as objects that refer to one another. A call makes its queues and its list of segments
and changes them as it goes; what it has made by the time it fails stays as it is. -/
namespace QueryTemplate

/-- Where an object is kept. -/
abbrev Address := Nat

/-- A compiler: the escaper and the formatter that it refers to, its table and its strictness. -/
structure CompilerObject where
  escaper : Address
  formatter : Address
  table : SpecifierTable
  strict : Bool

/-- The objects of a program, each kind of them under their addresses. -/
structure Heap where
  /-- How the server of a connection wants quotation marks at the time. -/
  connections : Address → Quoting
  /-- The connection that an escaper refers to. -/
  escapers : Address → Address
  /-- The escaper that a formatter refers to. -/
  formatters : Address → Address
  compilers : Address → CompilerObject
  queues : Address → Queues
  segments : Address → List Segment
  /-- The first address that was not yet given to an object. -/
  next : Address

namespace Heap

/-- No object is there yet. -/
def empty : Heap where
  connections _ := .backslash
  escapers _ := 0
  formatters _ := 0
  compilers _ := ⟨0, 0, ⟨[]⟩, true⟩
  queues _ := []
  segments _ := []
  next := 0

/-- The objects of a kind with another one at an address. -/
def put {α : Type} (a : Address) (x : α) (objects : Address → α) : Address → α :=
  fun b => if b = a then x else objects b

def setConnection (h : Heap) (a : Address) (q : Quoting) : Heap :=
  { h with connections := put a q h.connections }

def setEscaper (h : Heap) (a connection : Address) : Heap :=
  { h with escapers := put a connection h.escapers }

def setFormatter (h : Heap) (a escaper : Address) : Heap :=
  { h with formatters := put a escaper h.formatters }

def setCompiler (h : Heap) (a : Address) (c : CompilerObject) : Heap :=
  { h with compilers := put a c h.compilers }

def setQueues (h : Heap) (a : Address) (qs : Queues) : Heap :=
  { h with queues := put a qs h.queues }

def setSegments (h : Heap) (a : Address) (segments : List Segment) : Heap :=
  { h with segments := put a segments h.segments }

/-- With the next address in use. -/
def used (h : Heap) : Heap := { h with next := h.next + 1 }

/-- The escaper at an address, as the server of its connection wants it at the time. -/
def escaperAt (h : Heap) (a : Address) : Escaper := .connection (h.connections (h.escapers a))

end Heap

/-- A part of a call: what it changed up to an error stays changed. -/
abbrev HeapProgram := ExceptT CompileError (StateM Heap)

namespace HeapProgram

def newQueues : HeapProgram Address := do
  let h ← get
  set (h.setQueues h.next []).used
  return h.next

def newSegments (segments : List Segment) : HeapProgram Address := do
  let h ← get
  set (h.setSegments h.next segments).used
  return h.next

/-- Puts the argument of each placeholder into the queue of its token. -/
def fillQueues (q : Address) (args : List Value) : List Placeholder → HeapProgram Unit
  | [] => pure ()
  | p :: rest =>
    match args[p.position]? with
    | some v => do
      modify fun h => h.setQueues q ((h.queues q).push p.token v)
      fillQueues q args rest
    | none => throw (.defect .missingArgument)

/-- New queues with the n-th argument for the n-th placeholder. -/
def bind (c : CompilerObject) (template : Text) (placeholders : List Placeholder)
    (args : List Value) : HeapProgram Address := do
  if countAccepted c.strict placeholders.length args.length then do
    let q ← newQueues
    fillQueues q args placeholders
    return q
  else throw (.refusal (.argumentCount placeholders.length args.length template))

/-- Takes the first value that waits for a token. -/
def take (q : Address) (token : Text) : HeapProgram Value := do
  let h ← get
  match (h.queues q).waiting token with
  | [] => throw (.defect .emptyQueue)
  | v :: rest => do
    set (h.setQueues q ((h.queues q).leave token rest))
    return v

/-- Writes a value by a formatter: its escaper and that one's connection are looked up anew. -/
def format (f : Address) (s : Specifier) (v : Value) : HeapProgram Text := do
  let h ← get
  match (s.format (h.escaperAt (h.formatters f)) v).result with
  | .ok text => return text
  | .error error => throw error

/-- One round of a pass: the segment at an index, if it is a placeholder of the specifier's token,
is replaced by the text of the next value. -/
def fillAt (f q g : Address) (s : Specifier) (index : Nat) : HeapProgram Unit := do
  let h ← get
  match (h.segments g)[index]? with
  | some (.placeholder p) =>
    if p.token = s.token then do
      let v ← take q s.token
      let text ← format f s v
      modify fun h => h.setSegments g ((h.segments g).set index (.text text))
    else pure ()
  | _ => pure ()

/-- So many rounds of a pass from an index on. -/
def fillFrom (f q g : Address) (s : Specifier) (index : Nat) : Nat → HeapProgram Unit
  | 0 => pure ()
  | rounds + 1 => do
    fillAt f q g s index
    fillFrom f q g s (index + 1) rounds

/-- The pass of a specifier, if values wait for it. -/
def pass (f q g : Address) (s : Specifier) : HeapProgram Unit := do
  let h ← get
  match (h.queues q).waiting s.token with
  | [] => pure ()
  | _ :: _ => fillFrom f q g s 0 (h.segments g).length

/-- The passes of several specifiers, one after the other. -/
def passes (f q g : Address) : List Specifier → HeapProgram Unit
  | [] => pure ()
  | s :: rest => do
    pass f q g s
    passes f q g rest

def substitute (c : CompilerObject) (template : Text) (placeholders : List Placeholder)
    (q : Address) : HeapProgram Text := do
  let g ← newSegments (Segment.split template placeholders)
  passes c.formatter q g c.table.specifiers
  let h ← get
  match Segment.join (h.segments g) with
  | .ok text => return text
  | .error index => throw (.defect (.unfilled index))

/-- Refuses a template with tokens that are unknown to the compiler at an address. -/
def validate (a : Address) (template : Text) : HeapProgram Unit := do
  let h ← get
  match (h.compilers a).table.unknown template with
  | [] => pure ()
  | tokens => throw (.refusal (.unknownSpecifiers tokens template))

/-- Compiles by the compiler at an address, with arguments given as one value. -/
def compile (a : Address) (template : Text) (args : Value) : HeapProgram Compilation := do
  match args.items? with
  | none => throw (.notItems args.fullTypeName)
  | some args => do
    validate a template
    let c := (← get).compilers a
    let placeholders := c.table.scan template
    let q ← bind c template placeholders args
    let text ← substitute c template placeholders q
    let h ← get
    return {
      query := Block.resolve omissionToken text
      template
      placeholders
      blocks := Block.find omissionToken text
      escaper := some (h.escaperAt c.escaper).name }

end HeapProgram
end QueryTemplate
