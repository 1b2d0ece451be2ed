import ReplayLedger.Shell
import ReplayLedger.Store.Snapshot

/-!
# The program

Reads what a command line needs (the database, a file of payloads, the standard input), runs it,
shows the outcome and writes the database back if it has changed.
-/

namespace ReplayLedger.Program

/-- The text of a file that can be read. -/
def readFile? (path : String) : IO (Option String) := do
  try return some (← IO.FS.readFile path) catch _ => return none

/-- All that is typed in until the input ends. -/
partial def readInput (input : IO.FS.Stream) (text : String) : IO String := do
  let line ← input.getLine
  if line.isEmpty then return text else readInput input (text ++ line)

/-- The settings that the process environment calls for. -/
def settings : IO Settings := do
  return Settings.ofSurroundings {
    profile := ← IO.getEnv "ABL_ENV"
    databaseUrl := ← IO.getEnv "ABL_DATABASE_URL"
    echo := ← IO.getEnv "ABL_SQL_ECHO"
    logLevel := ← IO.getEnv "LOG_LEVEL" }

/-- Opens the database at an address. -/
def openDatabase (url : String) : IO (Except Error Opened) := do
  match Address.locate url with
  | .error e => return .error e
  | .ok (.memory writes) => return Opened.inMemory writes
  | .ok (.file path access) =>
    match ← readFile? path with
    | none => return if access.makes then access.openNew else .error .unopenable
    | some "" => return access.openNew
    | some text => return do access.openKept ⟨← require (Snapshot.ofText? text) .notDatabase, true⟩

/-- Writes a database to the file in which it is kept. -/
def closeDatabase (url : String) (s : Store) : IO Unit := do
  if let .ok (.file path _) := Address.locate url then
    let text := Snapshot.toText s
    unless (← readFile? path) = some text do IO.FS.writeFile path text

/-- Shows an outcome. -/
def display (outcome : Command.Outcome) : IO Unit := do
  (← IO.getStdout).putStr outcome.output
  (← IO.getStderr).putStr outcome.complaints
  if let some e := outcome.escaped then
    (← IO.getStderr).putStrLn (e.kind.name ++ ": " ++ e.message)

/-- What a run needs: all that is typed in, the contents of its file, and its database. -/
def prepare (usual : String) (sel : Command.Selection) :
    IO (String × Except Path.Fault String × Except Error Opened) := do
  let asks := sel.file? = some "-" ∨ (sel.form = .drop ∧ ¬ sel.flag "--yes")
  let input ← if asks then readInput (← IO.getStdin) "" else pure ""
  let text ← match sel.file? with
    | some name => if name = "-" then pure none else readFile? name
    | none => pure none
  let contents := match text with
    | some text => .ok text
    | none => .error .missing
  return (input, contents, ← openDatabase (sel.address usual))

/-- Runs a command line. -/
def run (arguments : List String) : IO UInt32 := do
  let usual := (← settings).databaseUrl.text?.getD Settings.defaultUrl
  let (input, contents, database) ← match Command.select arguments with
    | .ok sel => prepare usual sel
    | .error _ => pure ("", .error .missing, .ok {})
  let (outcome, after) :=
    Command.execute usual arguments input (fun _ => contents) (fun _ => database)
  if let some (url, s) := after then closeDatabase url s
  display outcome
  return outcome.exitCode.toUInt32

end ReplayLedger.Program

/-- The entry point of the program. -/
def main (arguments : List String) : IO UInt32 := ReplayLedger.Program.run arguments
