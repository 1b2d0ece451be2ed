import ReplayLedger.Batch
import ReplayLedger.Command
import ReplayLedger.Quantity
import ReplayLedger.Store.Document
import ReplayLedger.Text.Small
import ReplayLedger.Triage

/-!
# Running commands

A command turns a store into a new one and shows an outcome.  Errors of the store are reported with
advice, and the exit code tells whether the command may succeed later.  Other errors escape.
-/

namespace ReplayLedger

/-- An environment as it is named on a command line: digits are an id, anything else is a name. -/
def Reference.ofArgument (s : String) : Except Error Reference :=
  if Text.IsDigits s then .id <$> Quantity.integer s else .ok (.name s)

/-- The environment that an argument stands for. -/
def Store.resolveArgument (s : Store) (ref : String) : Except Error Environment := do
  s.resolve (← Reference.ofArgument ref)

namespace Command

namespace Outcome

/-- Success, with some text. -/
def success (text : String) : Outcome := { stdout := text }

/-- A report of an error of the store. -/
def report (e : Error) : Outcome where
  exitCode := if e.kind.advice.recoverable then exitRecoverable else exitFatal
  stderr := "Error (" ++ e.kind.advice.category.name ++ "): " ++ e.message ++ "\nHint: "
    ++ e.kind.advice.hint ++ "\n"

/-- The end of the program by an error that it has no words for. -/
def escape (e : Error) : Outcome := { exitCode := 1, escaped := some e }

/-- The outcome of a failure: a report if the error is one of the store. -/
def failure (e : Error) : Outcome := if e.kind.isLedger then report e else escape e

/-- An outcome after a dialogue. -/
def after (dialogue : String) (o : Outcome) : Outcome := { o with dialogue }

end Outcome

/-- Goes on after an operation that may fail; a failure leaves the store as it is. -/
def attempt {α : Type} (s : Store) (outcome : Except Error α) (next : α → Outcome × Store) :
    Outcome × Store :=
  match outcome with
  | .ok a => next a
  | .error e => (.failure e, s)

/-- An environment in a list of environments. -/
def environmentLine (row : Environment) : String :=
  Text.alignRight 4 (Numeral.ofInt row.id) ++ "  " ++ Text.alignLeft 16 row.name ++ " "
    ++ Text.alignLeft 18 row.runtime.label ++ " height="
    ++ ((row.maxHeight.map Numeral.ofInt).getD "-") ++ "  " ++ row.path ++ "\n"

/-- A list of environments. -/
def environmentLines (rows : List Environment) : String :=
  if rows = [] then "No environments\n" else String.join (rows.map environmentLine)

/-- A block in a list of blocks. -/
def blockLine (row : Block) : String :=
  Text.alignRight 10 (Numeral.ofInt row.height) ++ "  " ++ Hex.plain row.indexHash ++ "  root="
    ++ Hex.plain row.trieRoot ++ "\n"

/-- The answer that a line gives to a question: yes, no, or none that can be understood.  An empty
line means no. -/
def reply? (line : String) : Option Bool :=
  let word := Text.trim (Text.smalls line)
  if word = "y" ∨ word = "yes" then some true
  else if word = "n" ∨ word = "no" ∨ word = "" then some false
  else none

/-- Asks a question until it is answered or the input ends, which means no.  The result is what this
shows, and the answer.  What is typed in is shown as it stands. -/
def confirm (question : String) : List String → String × Bool
  | [] => (question, false)
  | line :: rest =>
    let shown := question ++ Text.withoutBreak line ++ "\n"
    match reply? (Text.withoutBreak line) with
    | some answer => (shown, answer)
    | none =>
      let (more, answer) := confirm question rest
      (shown ++ "Error: invalid input\n" ++ more, answer)

/-- The question that is asked before an environment is dropped.  It holds no control sequences. -/
def dropQuestion (name : String) : String :=
  Text.plain ("Drop environment '" ++ name ++ "' and all its data? [y/N]: ")

/-- The end of a command that was not confirmed. -/
def aborted : Outcome := { exitCode := 1, stderr := "Aborted!\n" }

/-- Drops an environment. -/
def drop (s : Store) (row : Environment) : Outcome × Store :=
  attempt s (s.dropEnvironment row.id) fun (removed, s) =>
    (.success ("Dropped environment '" ++ row.name ++ "' (" ++ Numeral.ofInt removed.total
      ++ " rows)\n"), s)

/-- Goes on with what is to be done about an environment, once it has been confirmed. -/
def asked (confirmed : Bool) (row : Environment) (input : List String) (s : Store)
    (next : Outcome × Store) : Outcome × Store :=
  if confirmed then next
  else
    let (shown, answer) := confirm (dropQuestion row.name) input
    let (outcome, s) := if answer then next else (aborted, s)
    (outcome.after shown, s)

/-- A report for people. -/
def reportText (r : Report) : String :=
  "Height " ++ Numeral.ofInt r.height ++ ": " ++ Text.capitals r.verdict.name ++ "\n"
    ++ String.join (r.trieRoots.map fun (environment, root) =>
      "  " ++ Text.alignLeft 16 (r.nameOf environment) ++ " root=" ++ Hex.plain root ++ "\n")
    ++ String.join (r.entryDivergences.map fun d =>
      "  key " ++ Hex.plain d.keyHash ++ "  " ++ r.nameOf d.environment ++ ": "
        ++ ((d.value.map Hex.plain).getD "<absent>") ++ "\n")
    ++ String.join (r.contractDivergences.map fun d =>
      "  " ++ d.slot.kindName ++ " " ++ d.slot.qualifiedId ++ "::" ++ d.slot.name ++ "\n")

/-- The outcome of a comparison that gives a report. -/
def compared (r : Report) (asDocument : Bool) : Outcome where
  exitCode := if r.isAgreement then 0 else exitDisagreement
  stdout := if asDocument then r.toJson.indented ++ "\n" else reportText r

/-- The outcome of a comparison that fails.  A request without sense is an error of usage. -/
def notCompared (e : Error) : Outcome :=
  if e.kind = .badValue ∨ e.kind = .decoding then Form.compare.refuse (.senseless e.message)
  else .failure e

/-- Compares environments at a height. -/
def compareArguments (s : Store) (refs : List String) (height : Int) : Except Error Report := do
  s.compareHeights (← refs.mapM Reference.ofArgument) (.int height)

/-- The outcome of a batch. -/
def batchOutcome : BatchEnd → Outcome
  | .complete count => .success ("Ingested " ++ Numeral.ofInt count ++ " block(s)\n")
  | .stopped line number (.unreadable complaint position) =>
    invalid number (Json.ReadError.describe line complaint position)
  | .stopped _ number (.rejected (.badPayload problems)) =>
    invalid number (Error.message (.badPayload problems))
  | .stopped _ number (.rejected e) =>
    if e.kind.isLedger then
      let outcome := Outcome.report e
      { outcome with stderr := "Line " ++ Numeral.ofInt number ++ " rejected\n" ++ outcome.stderr }
    else .escape e
where
  /-- A line that holds no payload. -/
  invalid (number : Nat) (detail : String) : Outcome :=
    { exitCode := 1
      stderr := "Error: Line " ++ Numeral.ofInt number ++ ": invalid block payload: " ++ detail ++ "\n" }

/-- The outcome of a command whose store cannot be opened. -/
def notOpened (e : Error) : Command → Outcome
  | .compare .. => notCompared e
  | _ => .failure e

/-- Runs a command on the store that is kept at a place, with the lines that are typed in. -/
def run (place : String) (input : List String) (s : Store) : Command → Outcome × Store
  | .init => (.success ("Database ready: " ++ place ++ "\n"), s)
  | .createEnvironment name runtime path =>
    attempt s (s.createEnvironment (.text name) (.text runtime) (.text path)) fun (id, s) =>
      (.success ("Created environment '" ++ name ++ "' with id " ++ Numeral.ofInt id ++ "\n"), s)
  | .listEnvironments => (.success (environmentLines s.listEnvironments), s)
  | .showEnvironment ref =>
    attempt s (s.resolveArgument ref) fun row => (.success (row.toJson.indented ++ "\n"), s)
  | .dropEnvironment ref confirmed =>
    attempt s (s.resolveArgument ref) fun row => asked confirmed row input s (drop s row)
  | .listBlocks ref start stop =>
    attempt s (s.resolveArgument ref) fun row =>
      attempt s (s.listBlocks row.id start stop) fun rows =>
        (.success (String.join (rows.map blockLine)), s)
  | .compare refs height asDocument =>
    match compareArguments s refs height with
    | .ok r => (compared r asDocument, s)
    | .error e => (notCompared e, s)
  | .ingest text =>
    let (ended, s) := s.applyBatch text
    (batchOutcome ended, s)

end Command

end ReplayLedger
