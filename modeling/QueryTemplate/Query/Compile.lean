import QueryTemplate.Query.Binding
import QueryTemplate.Template.Candidate

/-! Compiling a template: check its tokens, bind, substitute, resolve the blocks. -/
namespace QueryTemplate

/-- A compiled template and what was found on the way. -/
structure Compilation where
  query : Text
  template : Text
  placeholders : List Placeholder
  blocks : List Block
  /-- The name of the escaper; a compilation put together by hand has none. -/
  escaper : Option String
deriving DecidableEq, Repr

namespace Compilation

def placeholderCount (c : Compilation) : Nat := c.placeholders.length

def blocksElided (c : Compilation) : Nat := c.blocks.countP (·.elided)

def blocksKept (c : Compilation) : Nat := c.blocks.countP (!·.elided)

end Compilation

/-- A compile call: what was logged, what was escaped, and the outcome. -/
structure Call where
  log : List String
  escaped : List Text
  result : Except CompileError Compilation

/-- Compiles templates; keeps nothing from one call to the next. -/
structure Compiler where
  escaper : Escaper
  table : SpecifierTable := .standard
  strict : Bool := true

namespace Compiler

/-- The logger that compile calls write to, at the level of details. -/
def logger : String := "querybinder.compiler.compiler"

def rejectedLine (tokens : List Text) : String :=
  "Rejected template with unknown specifier(s): " ++ quotedList (tokens.map String.ofList)

def compiledLine (placeholders blocks elided : Nat) : String :=
  "Compiled template: " ++ toString placeholders ++ " placeholder(s), " ++ toString blocks ++
    " block(s), " ++ toString elided ++ " elided"

/-- Refuses a template with unknown tokens. -/
def validate (c : Compiler) (template : Text) : Except CompileError Unit :=
  match c.table.unknown template with
  | [] => .ok ()
  | tokens => .error (.refusal (.unknownSpecifiers tokens template))

/-- What a validation logs. -/
def validationLog (c : Compiler) (template : Text) : List String :=
  match c.table.unknown template with
  | [] => []
  | tokens => [rejectedLine tokens]

/-- The template with the arguments in place of its placeholders. -/
def substituted (c : Compiler) (template : Text) (args : List Value) : Escaping Text :=
  let placeholders := c.table.scan template
  match bindArguments c.strict template placeholders args with
  | .error error => .fail error
  | .ok queues => (c.table.substitute c.escaper template placeholders queues).2

/-- The compilation of a template whose substituted text is known. -/
def resolved (c : Compiler) (template text : Text) : Compilation where
  query := Block.resolve omissionToken text
  template := template
  placeholders := c.table.scan template
  blocks := Block.find omissionToken text
  escaper := some c.escaper.name

/-- Compiles a template with one argument for each placeholder. -/
def compile (c : Compiler) (template : Text) (args : List Value) : Call :=
  match c.validate template with
  | .error error => ⟨c.validationLog template, [], .error error⟩
  | .ok () =>
    let text := c.substituted template args
    match text.result with
    | .error error => ⟨[], text.raw, .error error⟩
    | .ok t =>
      let compilation := c.resolved template t
      ⟨[compiledLine compilation.placeholderCount compilation.blocks.length
        compilation.blocksElided], text.raw, .ok compilation⟩

/-- Compiles with arguments given as one value. -/
def compileWith (c : Compiler) (template : Text) (args : Value) : Call :=
  match args.items? with
  | some items => c.compile template items
  | none => ⟨[], [], .error (.notItems args.fullTypeName)⟩

end Compiler
end QueryTemplate
