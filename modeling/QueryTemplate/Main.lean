import QueryTemplate.Command.Run
import QueryTemplate.Log.Time
import Std.Time.DateTime.Timestamp

/-! The program: finds the variables and files that a command line needs, runs it and writes what
it leaves behind. -/
namespace QueryTemplate

/-- The variables that are looked for. -/
def variableNames : List String :=
  [Group.compiler, Group.server, Group.logging].flatMap fun g =>
    let own := g.fields.map (·.variableName)
    let inner := (own ++ g.fields.map (·.name)).map fun n => g.name ++ "__" ++ n
    let all := g.name :: own ++ inner
    all ++ all.map fun n => String.ofList (Text.upper n.toList)

def readEnvironment : IO Environment := do
  let found ← variableNames.mapM fun name => do
    pure ((← IO.getEnv name).map fun value => (name, value))
  pure (found.filterMap id)

/-- The text of a file, if there is one. -/
def readFile? (path : String) : IO (Option Text) := do
  try pure (some (← IO.FS.readFile path).toList)
  catch _ => pure none

/-- Only a directory has a place within itself. -/
def isDirectory (path : String) : IO Bool := do
  try
    let _ ← IO.FS.Handle.mk (path ++ "/.") .read
    pure true
  catch _ => pure false

/-- What there is at some paths and on the way to them. -/
def readStorage (paths : List String) : IO Storage := do
  let files ← paths.mapM fun path => do
    let place := (Location.ofPath path.toList).path
    pure ((← readFile? place).map fun text => (place, text))
  let passed := paths.flatMap fun path => (Location.passed path.toList).map Location.path
  pure { files := files.filterMap id, directories := ← passed.filterM isDirectory }

def readInput : IO Text := do
  pure (← (← IO.getStdin).readToEnd).toList

def currentTime : IO String := do
  let now ← Std.Time.Timestamp.now
  pure (String.ofList (timeText now.val.second.val.toNat (now.val.nano.val.toNat / 1000)))

def Command.Ending.code : Command.Ending → UInt32
  | .done => 0
  | .usage _ => 2
  | .failed | .fault _ => 1

def Command.Ending.complaint : Command.Ending → Option String
  | .done | .failed => none
  | .usage e => some ("Error: " ++ e.message)
  | .fault f => some f.message

end QueryTemplate

open QueryTemplate in
/-- The command line is run twice: to measure the time it takes, and to tell it. -/
def main (words : List String) : IO UInt32 := do
  let storage ← readStorage (Command.paths .standard words)
  let input ← if Command.readsInput .standard words then readInput else pure []
  let world : World :=
    { configuration := { environment := ← readEnvironment, file := ← readFile? ".env" }
      storage
      input
      time := ← currentTime
      elapsed := ⟨0⟩ }
  let start ← IO.monoNanosNow
  let _ ← IO.lazyPure fun _ => Command.run words world
  let stop ← IO.monoNanosNow
  let elapsed := Binary64.ofQuotient false (stop - start) 1000000
  let (ending, left) := Command.run words { world with elapsed }
  IO.print (String.ofList left.output)
  for (path, text) in left.storage.files do
    if storage.files.lookup path != some text then IO.FS.writeFile path (String.ofList text)
  for serving in left.servings do
    IO.eprintln ("No server is at hand for " ++ serving.host ++ ".")
  if let some complaint := ending.complaint then IO.eprintln complaint
  pure ending.code
