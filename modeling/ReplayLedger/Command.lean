import ReplayLedger.Command.Suggestion
import ReplayLedger.Error
import ReplayLedger.Path
import ReplayLedger.RuntimeKind
import ReplayLedger.Text.Control
import ReplayLedger.Text.Quoted

/-!
# Commands

The store is used from a command line.  A command is one request with its arguments read.  Every
form of a command line has a usage line, which is shown with each complaint about it.
-/

namespace ReplayLedger

/-- One request on the command line. -/
inductive Command where
  | init
  | createEnvironment (name runtime path : String)
  | listEnvironments
  | showEnvironment (ref : String)
  | dropEnvironment (ref : String) (confirmed : Bool)
  | listBlocks (ref : String) (start stop : Option Int)
  | compare (refs : List String) (height : Int) (asDocument : Bool)
  /-- Takes in the payloads of a text, one a line. -/
  | ingest (text : String)
  deriving DecidableEq, Repr, Inhabited

namespace Command

/-- The forms of command lines.  The first two only lead on to others. -/
inductive Form where
  | program
  | environments
  | init
  | create
  | list
  | display
  | drop
  | blocks
  | compare
  | ingest
  deriving DecidableEq, Repr, Inhabited

/-- What a form takes besides options. -/
inductive Operand where
  | none
  /-- A command and its arguments. -/
  | command
  | one (name : String)
  | many (name : String)
  deriving DecidableEq, Repr, Inhabited

/-- How an operand is shown in a usage line. -/
def Operand.usage : Operand → String
  | none => ""
  | command => " COMMAND [ARGS]..."
  | one name => " " ++ name
  | many name => " " ++ name ++ "..."

/-- What kind of value an option takes. -/
inductive OptionKind where
  | flag
  | text
  | integer
  | choice (words : List String)
  deriving DecidableEq, Repr, Inhabited

/-- An option of a form. -/
structure OptionSpec where
  name : String
  kind : OptionKind
  required : Bool := false
  deriving DecidableEq, Repr, Inhabited

namespace Form

/-- The words that lead to a form. -/
def path : Form → String
  | program => "abl"
  | environments => "abl env"
  | init => "abl init"
  | create => "abl env create"
  | list => "abl env list"
  | display => "abl env show"
  | drop => "abl env drop"
  | blocks => "abl blocks"
  | compare => "abl compare"
  | ingest => "abl ingest"

/-- What a form takes besides options. -/
def operand : Form → Operand
  | program | environments => .command
  | init | list => .none
  | create => .one "NAME"
  | display | drop | blocks => .one "REF"
  | compare => .many "REFS"
  | ingest => .one "PAYLOAD_FILE"

/-- The options of a form, apart from the one that asks for help. -/
def options : Form → List OptionSpec
  | program => [⟨"--database", .text, false⟩, ⟨"--log-level", .text, false⟩, ⟨"--version", .flag, false⟩]
  | create =>
    [⟨"--runtime", .choice (RuntimeKind.all.map RuntimeKind.name), true⟩, ⟨"--path", .text, true⟩]
  | drop => [⟨"--yes", .flag, false⟩]
  | blocks => [⟨"--start", .integer, false⟩, ⟨"--end", .integer, false⟩]
  | compare => [⟨"--height", .integer, true⟩, ⟨"--json", .flag, false⟩]
  | environments | init | list | display | ingest => []

/-- The words that lead on from a form. -/
def commands : Form → List (String × Form)
  | program =>
    [("init", init), ("env", environments), ("blocks", blocks), ("compare", compare), ("ingest", ingest)]
  | environments => [("create", create), ("list", list), ("show", display), ("drop", drop)]
  | _ => []

/-- The form that a word leads to. -/
def next? (form : Form) (word : String) : Option Form := form.commands.lookup word

/-- The usage line of a form. -/
def usage (form : Form) : String :=
  "Usage: " ++ form.path ++ " [OPTIONS]" ++ form.operand.usage ++ "\n"

end Form

/-- Why a command line cannot be used. -/
inductive UsageError where
  | noSuchOption (name : String) (suggestions : List String)
  | valueMissing (option : String)
  | valueUnexpected (option : String)
  | missingCommand
  | noSuchCommand (name : String) (suggestions : List String)
  | notInteger (option value : String)
  | notChoice (option value : String) (words : List String)
  | missingOption (spec : OptionSpec)
  | missingArgument (name : String)
  | badFile (argument file : String) (fault : Path.Fault)
  | extraArguments (words : List String)
  /-- A request that is well formed but makes no sense. -/
  | senseless (message : String)
  deriving DecidableEq, Repr, Inhabited

/-- What else is said about a required option: the words to choose from. -/
def OptionSpec.hint (spec : OptionSpec) : String :=
  match spec.kind with
  | .choice words => " Choose from:\n\t" ++ String.intercalate ",\n\t" words
  | _ => ""

/-- The wording of a usage error. -/
def UsageError.message : UsageError → String
  | noSuchOption name suggestions =>
    "No such option " ++ Quoted.text name ++ "." ++ Suggestion.text suggestions
  | valueMissing option => "Option '" ++ option ++ "' requires an argument."
  | valueUnexpected option => "Option '" ++ option ++ "' does not take a value."
  | missingCommand => "Missing command."
  | noSuchCommand name suggestions =>
    "No such command " ++ Quoted.text name ++ "." ++ Suggestion.text suggestions
  | notInteger option value =>
    "Invalid value for '" ++ option ++ "': " ++ Quoted.text value ++ " is not a valid integer."
  | notChoice option value words =>
    "Invalid value for '" ++ option ++ "': " ++ Quoted.text value ++ " is not one of "
      ++ String.intercalate ", " (words.map Quoted.text) ++ "."
  | missingOption spec => "Missing option '" ++ spec.name ++ "'." ++ spec.hint
  | missingArgument name => "Missing argument '" ++ name ++ "'."
  | badFile argument file fault =>
    "Invalid value for '" ++ argument ++ "': '" ++ file ++ "': " ++ fault.message
  | extraArguments words =>
    "Got unexpected extra argument" ++ (if words.length = 1 then "" else "s") ++ " ("
      ++ String.intercalate " " words ++ ")"
  | senseless message => message

/-- Whether a usage error is told without the usage line: those about the value of an option. -/
def UsageError.isBrief : UsageError → Bool
  | valueMissing _ | valueUnexpected _ => true
  | _ => false

/-- What a run of the program shows. -/
structure Outcome where
  exitCode : Nat := 0
  /-- Questions and the answers to them, which stand in front of all else. -/
  dialogue : String := ""
  stdout : String := ""
  stderr : String := ""
  /-- An error that the program has no words for, and that ends it. -/
  escaped : Option Error := none
  deriving DecidableEq, Repr, Inhabited

namespace Outcome

/-- The standard output of a run.  Only what is typed in during a dialogue may hold control
sequences. -/
def output (o : Outcome) : String := Text.withJoinedBreaks (o.dialogue ++ Text.plain o.stdout)

/-- The error output of a run. -/
def complaints (o : Outcome) : String := Text.withJoinedBreaks (Text.plain o.stderr)

end Outcome

/-- The exit code of a comparison that finds a disagreement. -/
def exitDisagreement : Nat := 1

/-- The exit code of what cannot succeed as it stands. -/
def exitFatal : Nat := 2

/-- The exit code of what may succeed later. -/
def exitRecoverable : Nat := 3

/-- What stands in front of a complaint about a form. -/
def Form.usageHint (form : Form) : String :=
  form.usage ++ "Try '" ++ form.path ++ " --help' for help.\n\n"

/-- The outcome of a command line that cannot be used. -/
def Form.refuse (form : Form) (e : UsageError) : Outcome where
  exitCode := exitFatal
  stderr := (if e.isBrief then "" else form.usageHint) ++ "Error: " ++ e.message ++ "\n"

end Command

end ReplayLedger
