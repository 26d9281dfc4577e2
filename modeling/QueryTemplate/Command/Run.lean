import QueryTemplate.Command.Storage
import QueryTemplate.Command.Toolkit
import QueryTemplate.Log.Setup
import QueryTemplate.Text.Digit
import QueryTemplate.Text.Line
import QueryTemplate.Version

/-! The commands: compile a template, list the specifiers, start a server. -/
namespace QueryTemplate

/-- A request to start a server. -/
structure Serving where
  host : String
  port : Int
  reload : Bool
  workers : Int
deriving DecidableEq, Repr

/-- What commands find and what they leave behind. -/
structure World where
  kit : Toolkit := .standard
  configuration : Configuration
  logger : Logger := {}
  storage : Storage := {}
  /-- What can be read where no template is given. -/
  input : Text := []
  /-- The time that log records bear. -/
  time : String
  /-- How many milliseconds compiling takes. -/
  elapsed : Binary64
  output : Text := []
  servings : List Serving := []

/-- What a command breaks down over. -/
inductive Fault where
  | setup (e : SetupError)
  | call (e : CallError)
  | log (e : MessageError)
  | markup (e : MarkupError)
  /-- A text has a surrogate, so that it cannot be written. -/
  | unencodable (text : Text)
  /-- The file with the arguments is no document. -/
  | unreadable (e : Json.ReadError)
  | unreachable (path : String) (e : PathError)

def Fault.message : Fault → String
  | .setup (.settings e) | .call (.settings e) => e.message
  | .setup (.level e) => e.message
  | .call (.escaper e) => e.message
  | .call (.compile e) => e.message
  | .log e => e.message
  | .markup (.notOpen name) => "closing tag '" ++ String.ofList name ++ "' doesn't match any open tag"
  | .unencodable text => Text.encodeComplaint text
  | .unreadable e => e.complaint.message
  | .unreachable path e => e.message ++ ": " ++ quotedString path

/-- Why a command ends before its end. -/
inductive Stop where
  /-- All is done. -/
  | done
  /-- An error was reported. -/
  | failed
  | usage (e : UsageError)
  | fault (f : Fault)

/-- A run of a command: what it did up to a stop stays. -/
abbrev Command := ExceptT Stop (StateM World)

namespace Command

def stop {α : Type} (s : Stop) : Command α := throw s

def refuse {α : Type} (e : UsageError) : Command α := stop (.usage e)

def put (text : Text) : Command Unit := modify fun w => { w with output := w.output ++ text }

/-- Writes text as it is, if it can be written. -/
def echo (text : Text) : Command Unit :=
  if text.isEncodable then put text else stop (.fault (.unencodable text))

/-- Writes a line as it is written where there is no terminal. -/
def echoLine (text : Text) : Command Unit := do
  echo ((← get).kit.plain text ++ ['\n'])

def shown (text : Except MarkupError Text) : Command Unit :=
  match text with
  | .ok t => echo t
  | .error e => stop (.fault (.markup e))

/-- Writes text with style tags, broken into lines. -/
def say (text : String) : Command Unit := do
  shown ((← get).kit.paragraph text.toList)

def sayError (message : String) : Command Unit := say ("[red]Error:[/red] " ++ message)

/-- Writes a log line of a logger below the root. -/
def log (level : Level) (logger message : String) : Command Unit := do
  let w ← get
  match w.logger.write w.kit.columns { time := w.time, level, logger, message } with
  | .ok lines => lines.forM fun line => put (line.toList ++ ['\n'])
  | .error e => stop (.fault (.log e))

def setUpLogging : Command Unit := do
  let w ← get
  let (configuration, logger, outcome) := w.configuration.setUpLogging w.logger none
  set { w with configuration, logger }
  match outcome with
  | .ok () => pure ()
  | .error e => stop (.fault (.setup e))

/-- Reads or changes the configuration. -/
def configured {α : Type} (f : Configuration → Configuration × α) : Command α := do
  let w ← get
  let (configuration, a) := f w.configuration
  set { w with configuration }
  pure a

def helpOption : OptionSpec := { name := "help", takesValue := false }

def groupOptions : List OptionSpec := [{ name := "version", takesValue := false }, helpOption]

def fileOption : OptionSpec := { name := "file", short := some 'f' }

def argsFileOption : OptionSpec := { name := "args-file" }

def outputOption : OptionSpec := { name := "output", short := some 'o' }

def compileOptions : List OptionSpec :=
  [fileOption, { name := "arg", short := some 'a' }, argsFileOption,
    outputOption, { name := "escaper", short := some 'e' },
    { name := "verbose", short := some 'v', takesValue := false }, helpOption]

def portOption : OptionSpec := { name := "port", short := some 'p' }

def workersOption : OptionSpec := { name := "workers", short := some 'w' }

def serveOptions : List OptionSpec :=
  [{ name := "host", short := some 'h' }, portOption, { name := "reload", takesValue := false },
    workersOption, helpOption]

/-- Checks the values of options in the order in which the options are first given. -/
def checkEach (line : CommandLine) (check : String → String → Command Unit) : Command Unit :=
  (line.options.map (·.1)).eraseDups.forM fun name =>
    match line.value? name with
    | some value => check name value
    | none => pure ()

/-- What a path leads to, or a fault. -/
def reached {α : Type} (path : String) : Except PathError α → Command α
  | .ok a => pure a
  | .error e => stop (.fault (.unreachable path e))

/-- No path has the character in it that ends paths. -/
def checkPath (path : String) : Command Unit :=
  if path.contains '\x00' then stop (.fault (.unreachable path .embeddedNul)) else pure ()

/-- Refuses the value of an option that names nothing. -/
def checkExisting (o : OptionSpec) (path : String) : Command Unit := do
  checkPath path
  if !(← get).storage.has path.toList then
    refuse (.invalidValue o.shownNames ("Path " ++ quotedString path ++ " does not exist."))

/-- The text of a file, with one kind of line end. -/
def readFile (path : String) : Command Text := do
  let text ← reached path ((← get).storage.read path.toList)
  pure (Text.unifyLines text)

def checkInteger (o : OptionSpec) (value : String) : Command Unit :=
  if (Text.integer? value.toList).isNone then
    refuse (.invalidValue o.shownNames (quotedString value ++ " is not a valid integer."))
  else pure ()

/-- Refuses arguments beyond the first few. -/
def checkCount (count : Nat) (line : CommandLine) : Command Unit :=
  match line.arguments.drop count with
  | [] => pure ()
  | more => refuse (.unexpected more)

def readOptions (specs : List OptionSpec) (words : List String) : Command CommandLine := do
  match (← get).kit.readWords specs true words with
  | .ok line => if line.has helpOption.name then stop .done else pure line
  | .error e => refuse e

/-- The template's file, its text, or what can be read. -/
def templateText (line : CommandLine) : Command Text := do
  let w ← get
  match line.value? fileOption.name with
  | some path => readFile path
  | none =>
    match line.arguments with
    | template :: _ => pure (if template.isEmpty then Text.unifyLines w.input else template.toList)
    | [] => pure (Text.unifyLines w.input)

/-- An argument on the command line is a document. -/
def readArgument (text : String) : Except UsageError Value :=
  match Json.read text.toList with
  | .ok j => .ok j.toValue
  | .error e => .error (.invalidValue "--arg"
      ("not valid JSON: " ++ quotedString text ++ " (" ++ e.complaint.message ++ ")"))

/-- The arguments are those of the file, if one is given. -/
def arguments (line : CommandLine) : Command (List Value) := do
  match line.value? argsFileOption.name with
  | some path =>
    match Json.read (← readFile path) with
    | .ok (.array items) => pure (Json.valuesOf items)
    | .ok _ => refuse (.invalidValue argsFileOption.long "must contain a JSON list")
    | .error e => stop (.fault (.unreadable e))
  | none =>
    match (line.values "arg").mapM readArgument with
    | .ok values => pure values
    | .error e => refuse e

/-- A failure that is the caller's is reported, any other one is a fault. -/
def report {α : Type} : CallError → Command α
  | .escaper e => do sayError e.message; stop .failed
  | .compile (.refusal r) => do sayError r.message; stop .failed
  | e => stop (.fault (.call e))

def compiled (line : CommandLine) (template : Text) (args : List Value) :
    Command Compilation := do
  let escaper ← configured fun c => c.escaper (line.value? "escaper") [] .backslash
  match escaper with
  | .error e => report e
  | .ok escaper =>
    match ← configured fun c => c.compiler (some escaper) .standard none with
    | .error e => report e
    | .ok compiler => do
      let call := compiler.compile template args
      call.log.forM (log .debug Compiler.logger)
      match call.result with
      | .ok compilation => pure compilation
      | .error e => report (.compile e)

/-- Writes a file. One whose text cannot be written is there and empty. -/
def writeFile (path : String) (text : Text) : Command Unit := do
  let written := if text.isEncodable then text else []
  let storage ← reached path ((← get).storage.write path.toList written)
  modify fun w => { w with storage }
  if !text.isEncodable then stop (.fault (.unencodable text))

def detailsTable (c : Compilation) (elapsed : Binary64) : Screen.Table where
  title := "Compilation Details".toList
  header := ["Metric".toList, "Value".toList]
  rows :=
    [["Placeholders".toList, (toString c.placeholderCount).toList],
      ["Blocks Kept".toList, (toString c.blocksKept).toList],
      ["Blocks Elided".toList, (toString c.blocksElided).toList],
      ["Escaper".toList, (c.escaper.getD "").toList],
      ["Time".toList, FloatForm.fixed.write false 2 elapsed ++ ['m', 's']]]

def compile (words : List String) : Command Unit := do
  let line ← readOptions compileOptions words
  checkEach line fun name value =>
    if name = fileOption.name then checkExisting fileOption value
    else if name = argsFileOption.name then checkExisting argsFileOption value
    else if name = outputOption.name then checkPath value
    else pure ()
  checkCount 1 line
  let template ← templateText line
  if template.all Text.isBlank then do
    sayError "No template provided"
    echo "Aborted!\n".toList
    stop .failed
  let args ← arguments line
  let c ← compiled line template args
  let verbose := line.has "verbose"
  match line.value? outputOption.name with
  | some path =>
    if path.isEmpty then present verbose c
    else do
      writeFile path c.query
      say ("[green]Saved to:[/green] " ++ path)
  | none => present verbose c
  if verbose then do
    let w ← get
    echo (w.kit.table (detailsTable c w.elapsed))
where
  present (verbose : Bool) (c : Compilation) : Command Unit :=
    if verbose then do
      shown ((← get).kit.panel "Compiled Query".toList c.query)
    else echoLine c.query

def specifierTable : Screen.Table where
  title := "Placeholder Specifiers".toList
  header := ["Token".toList, "Kind".toList, "Description".toList]
  rows := SpecifierTable.standard.specifiers.map fun s =>
    [s.token, ((s.kind.map Kind.name).getD "").toList, s.description.toList]

def specifiers (words : List String) : Command Unit := do
  let line ← readOptions [helpOption] words
  checkCount 0 line
  echo ((← get).kit.table specifierTable)

/-- An integer that is given and not zero. -/
def givenInteger? (line : CommandLine) (o : OptionSpec) : Option Int :=
  (line.value? o.name).bind fun value =>
    (Text.integer? value.toList).bind fun n => if n = 0 then none else some n

def serve (words : List String) : Command Unit := do
  let line ← readOptions serveOptions words
  checkEach line fun name value =>
    if name = portOption.name then checkInteger portOption value
    else if name = workersOption.name then checkInteger workersOption value
    else pure ()
  checkCount 0 line
  match ← configured Configuration.get with
  | .error e => stop (.fault (.call (.settings e)))
  | .ok settings => do
    let host := match line.value? "host" with
      | some host => if host.isEmpty then settings.server.host else host
      | none => settings.server.host
    let port := (givenInteger? line portOption).getD settings.server.port
    let workers := ((line.value? workersOption.name).bind fun v => Text.integer? v.toList).getD 1
    say "[bold]Starting querybinder API server...[/bold]"
    say ("  Host: " ++ host)
    say ("  Port: " ++ toString port)
    say ("\n[dim]API docs available at http://" ++ host ++ ":" ++ toString port ++
      "/docs[/dim]\n")
    modify fun w =>
      { w with servings := w.servings ++ [⟨host, port, line.has "reload", workers⟩] }

/-- The name under which the program tells its version. -/
def versionLine : String := "querybinder, version " ++ version ++ "\n"

/-- The words from a command's name on. What is asked of the program itself is done at once. -/
def readGroup (words : List String) : Command (List String) := do
  match (← get).kit.readWords groupOptions false words with
  | .error e => refuse e
  | .ok line =>
    match line.options with
    | [] => pure line.arguments
    | ("version", _) :: _ => do
      echo versionLine.toList
      stop .done
    | _ :: _ => stop .done

/-- The commands by their names. -/
def commands : List (String × (List String → Command Unit)) :=
  [("compile", compile), ("serve", serve), ("specifiers", specifiers)]

/-- A command line without the program's name. Logging is set up once the command is known. What
is no command's name is read as an option once more. -/
def dispatch (words : List String) : Command Unit := do
  match ← readGroup words with
  | [] => if words.isEmpty then pure () else refuse .missingCommand
  | name :: rest =>
    match commands.lookup name with
    | some run => do
      setUpLogging
      run rest
    | none => do
      let _ ← readGroup (name :: rest)
      refuse (.noSuchCommand name ((← get).kit.similar name (commands.map (·.1))))

/-- The command line of a compilation, if that is what the words ask for. -/
def compileLine? (kit : Toolkit) (words : List String) : Option CommandLine :=
  match kit.readWords groupOptions false words with
  | .ok { options := [], arguments := "compile" :: rest } =>
    (kit.readWords compileOptions true rest).toOption
  | _ => none

/-- The paths of the files that a command line names. -/
def paths (kit : Toolkit) (words : List String) : List String :=
  match compileLine? kit words with
  | some line => [fileOption, argsFileOption, outputOption].flatMap fun o => line.values o.name
  | none => []

/-- Does a command line leave the template to be read? -/
def readsInput (kit : Toolkit) (words : List String) : Bool :=
  match compileLine? kit words with
  | some line =>
    !line.has fileOption.name && !line.has helpOption.name && line.arguments.head?.all String.isEmpty
  | none => false

/-- How a run ends. -/
inductive Ending where
  | done
  | failed
  | usage (e : UsageError)
  | fault (f : Fault)

/-- Runs a command line. -/
def run (words : List String) (w : World) : Ending × World :=
  match ExceptT.run (dispatch words) w with
  | (.ok (), w) | (.error .done, w) => (.done, w)
  | (.error .failed, w) => (.failed, w)
  | (.error (.usage e), w) => (.usage e, w)
  | (.error (.fault f), w) => (.fault f, w)

end Command
end QueryTemplate
