import ReplayLedger.Address.Opening
import ReplayLedger.Command.Arguments
import ReplayLedger.Command.ReadOnly
import ReplayLedger.Settings
import ReplayLedger.Version

/-!
# Runs of the program

A run reads its command line, then the file that it names, then opens the database.  The program is
run again and again on the same files and databases: a database that is kept in a file stays there,
under the route of the file, and one that is kept in memory is empty at every run.
-/

namespace ReplayLedger

/-- A database that has been opened, and whether it can be changed. -/
structure Opened where
  store : Store := {}
  writes : Bool := true
  deriving Inhabited, Repr

/-- A database in a file. -/
structure Kept where
  store : Store
  /-- Whether changes are logged beside the file. -/
  logged : Bool := true
  deriving Inhabited, Repr

/-- Opens a file that holds a database.  Logging starts when a file is shared, and never ends; what
is logged beside a file cannot be read by one who does not share it.  Nothing of this concerns a
frozen file. -/
def Access.openKept (access : Access) (kept : Kept) : Except Error Opened := do
  if !access.frozen then
    ensure (access.alone = false ∨ kept.logged = false) .unopenable
    ensure (access.alone = true ∨ kept.logged = true ∨ access.writes = true) (.readOnly none [])
  return { store := kept.store, writes := access.writes && !access.frozen }

/-- Opens a file that holds nothing yet.  Logging starts, where it does, and then the tables are
made. -/
def Access.openNew (access : Access) : Except Error Opened := do
  ensure (access.writes = true ∨ access.alone = true ∨ access.frozen = true) (.readOnly none [])
  ensure (access.writes = true ∧ access.frozen = false) .tableRefused
  return {}

/-- Opens a database in memory, which is always a new one. -/
def Opened.inMemory (writes : Bool) : Except Error Opened := do
  ensure (writes = true) .tableRefused
  return {}

namespace Command

/-- The outcome of a run that ends before its command. -/
def Stop.outcome : Stop → Outcome
  | .refused form e => form.refuse e
  | .help form => .success form.usage
  | .version => .success ("abl, version " ++ Version.text ++ "\n")
  | .escaped e => .escape e

/-- The address of the database that a command line names, or the usual one. -/
def Selection.address (sel : Selection) (usual : String) : String :=
  match Association.get? "--database" sel.general with
  | none => usual
  | some url => if url = "" then usual else url

/-- Runs a command line, given what is typed in, the contents of files and the databases.  The
result is the outcome, and the address and new contents of the database, if it was opened and can be
changed. -/
def execute (usual : String) (arguments : List String) (input : String)
    (contents : String → Except Path.Fault String) (openAt : String → Except Error Opened) :
    Outcome × Option (String × Store) :=
  let selected := do
    let sel ← select arguments
    return (sel.address usual, ← sel.command fun name => if name = "-" then .ok input else contents name)
  match selected with
  | .error stop => (stop.outcome, none)
  | .ok (url, command) =>
    match openAt url with
    | .error e => (command.notOpened e, none)
    | .ok ⟨s, true⟩ =>
      let (outcome, s) := command.run url (Text.lines input) s
      (outcome, some (url, s))
    | .ok ⟨s, false⟩ => (command.runReadOnly url (Text.lines input) s, none)

end Command

/-- The files of the working folder and the databases that runs of the program share. -/
structure Shell where
  files : Files := []
  databases : List (Route × Kept) := []
  deriving Inhabited, Repr

namespace Shell

/-- Opens the database at a route.  A file that holds something else is no database. -/
def openFile (shell : Shell) (route : Route) (access : Access) : Except Error Opened :=
  match Association.get? route shell.databases with
  | some kept => access.openKept kept
  | none => do
    let text := shell.files.textAt? route
    -- a folder can be opened for reading, but not read
    ensure (access.writes = true ∨ shell.files.hasFolder route = false) .diskFault
    ensure (shell.files.canHold route = true) .unopenable
    ensure (access.makes = true ∨ text.isSome = true) .unopenable
    ensure (route ≠ Path.emptyFile) .diskFault
    ensure (text.getD "" = "") .notDatabase
    access.openNew

/-- Opens the database at an address. -/
def openAt (shell : Shell) (url : String) : Except Error Opened := do
  match ← Address.locate url with
  | .memory writes => Opened.inMemory writes
  | .file path access => shell.openFile (.ofPath path) access

/-- Keeps a store at an address. -/
def keep (shell : Shell) (url : String) (s : Store) : Shell :=
  match Address.locate url with
  | .ok (.file path access) =>
    let kept := { store := s, logged := !access.alone : Kept }
    { shell with databases := Association.put (.ofPath path) kept shell.databases }
  | _ => shell

/-- Runs the program once. -/
def run (shell : Shell) (usual : String) (arguments : List String) (input : String) :
    Command.Outcome × Shell :=
  match Command.execute usual arguments input shell.files.read shell.openAt with
  | (outcome, some (url, s)) => (outcome, shell.keep url s)
  | (outcome, none) => (outcome, shell)

end Shell

end ReplayLedger
