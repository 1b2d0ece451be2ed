import ReplayLedger.Association
import ReplayLedger.Command

/-!
# Reading a command line

Words are read from the left.  A word that starts with a hyphen is an option, unless it is the
hyphen alone; two hyphens end the options.  An option that takes a value has it behind an equals
sign, or as the next word.  Forms that lead on to others take options only in front of the next
word, all others anywhere.

Of several complaints the first one in this order is made: about the words themselves, from the
left; about the values of options, in the order in which these were first given; about missing or
unusable arguments; about missing options; about arguments that are left over.
-/

namespace ReplayLedger.Command

/-- Options with their values, and the other words. -/
structure Words where
  options : List (String × String) := []
  operands : List String := []
  deriving DecidableEq, Repr, Inhabited

/-- Whether a word is an option. -/
def isOption (word : String) : Bool :=
  match word.toList with
  | '-' :: _ :: _ => true
  | _ => false

/-- Splits an option from the value that is attached to it. -/
def splitAttached (word : String) : String × Option String :=
  match word.toList.span (· ≠ '=') with
  | (name, '=' :: value) => (String.ofList name, some (String.ofList value))
  | _ => (word, none)

/-- The option that asks for help. -/
def helpOption : OptionSpec := ⟨"--help", .flag, false⟩

/-- All options of a form. -/
def Form.allOptions (form : Form) : List OptionSpec := form.options ++ [helpOption]

/-- The option of a form with a name. -/
def Form.option? (form : Form) (name : String) : Option OptionSpec :=
  form.allOptions.find? (·.name = name)

/-- The complaint about an unknown option.  Behind two hyphens it is about the whole name, which may
be a slip; behind one it is about the first letter. -/
def Form.unknownOption (form : Form) (word : String) : UsageError :=
  match word.toList with
  | '-' :: '-' :: _ =>
    let name := (splitAttached word).1
    .noSuchOption name (Suggestion.close (form.allOptions.map (·.name)) name)
  | cs => .noSuchOption (String.ofList (cs.take 2)) []

/-- The complaint about an unknown command. -/
def Form.unknownCommand (form : Form) (word : String) : UsageError :=
  .noSuchCommand word (Suggestion.close (form.commands.map (·.1)) word)

/-- Whether a form leads on to others. -/
def Form.leadsOn (form : Form) : Bool := form.operand = .command

/-- Puts an option in front. -/
def Words.consOption (name value : String) (words : Words) : Words :=
  { words with options := (name, value) :: words.options }

/-- Puts an operand in front. -/
def Words.consOperand (word : String) (words : Words) : Words :=
  { words with operands := word :: words.operands }

/-- Tells options from the other words. -/
def scan (form : Form) : List String → Except UsageError Words
  | [] => .ok {}
  | word :: rest =>
    if word = "--" then .ok { operands := rest }
    else if !isOption word then
      if form.leadsOn then .ok { operands := word :: rest }
      else (scan form rest).map (.consOperand word)
    else
      match form.option? (splitAttached word).1, (splitAttached word).2, rest with
      | none, _, _ => .error (form.unknownOption word)
      | some ⟨name, .flag, _⟩, none, rest => (scan form rest).map (.consOption name "")
      | some ⟨name, .flag, _⟩, some _, _ => .error (.valueUnexpected name)
      | some ⟨name, _, _⟩, some value, rest => (scan form rest).map (.consOption name value)
      | some ⟨name, _, _⟩, none, value :: rest => (scan form rest).map (.consOption name value)
      | some ⟨name, _, _⟩, none, [] => .error (.valueMissing name)
  termination_by words => words.length

/-- The integer that the value of an option stands for. -/
def integer? (value : String) : Option Int :=
  if Numeral.digitCount value ≤ Numeral.maxDigits then Numeral.ofText? value else none

/-- Checks the value of an option. -/
def OptionSpec.check (spec : OptionSpec) (value : String) : Except UsageError Unit :=
  match spec.kind with
  | .flag | .text => .ok ()
  | .integer => if (integer? value).isSome then .ok () else .error (.notInteger spec.name value)
  | .choice words =>
    if value ∈ words then .ok () else .error (.notChoice spec.name value words)

/-- Why reading a command line ends early. -/
inductive Stop where
  | refused (form : Form) (e : UsageError)
  | help (form : Form)
  | version
  /-- An error that the program has no words for. -/
  | escaped (e : Error)
  deriving DecidableEq, Repr, Inhabited

/-- A complaint about a form. -/
def Form.stopWith {α : Type} (form : Form) (e : UsageError) : Except Stop α :=
  .error (.refused form e)

/-- The end of a command line whose file cannot be read. -/
def Form.stopAtFile (form : Form) (argument file : String) : Path.Fault → Stop
  | .embeddedNull => .escaped .embeddedNull
  | fault => .refused form (.badFile argument file fault)

/-- The options of a command line, the last value of each, and its other words. -/
def Form.read (form : Form) (words : List String) : Except Stop Words := do
  let words ← (scan form words).mapError (.refused form)
  let given := Association.ofWrites words.options
  match given.find? fun (name, _) => name = "--help" ∨ name = "--version" with
  | some (name, _) => .error (if name = "--help" then .help form else .version)
  | none =>
    given.forM fun (name, value) =>
      match form.option? name with
      | some spec => (spec.check value).mapError (.refused form)
      | none => .ok ()
    return { words with options := given }

/-- The form that the next word leads to, and the words behind it.  A word that leads nowhere and
looks like an option is first read as one. -/
def Form.follow (form : Form) : List String → Except Stop (Form × List String)
  | [] => form.stopWith .missingCommand
  | word :: rest =>
    match form.next? word with
    | some next => .ok (next, rest)
    | none => do
      let _ ← form.read (word :: rest)
      form.stopWith (form.unknownCommand word)

/-- A command line whose options have been read. -/
structure Selection where
  /-- The options of the program itself. -/
  general : List (String × String)
  form : Form
  words : Words
  deriving DecidableEq, Repr, Inhabited

/-- Finds the form of a command line and reads its options. -/
def select (arguments : List String) : Except Stop Selection := do
  let program ← Form.program.read arguments
  let (form, rest) ← Form.program.follow program.operands
  let words ← form.read rest
  if form.leadsOn then
    let (form, rest) ← form.follow words.operands
    return { general := program.options, form, words := ← form.read rest }
  else return { general := program.options, form, words }

namespace Selection

/-- The value of an option. -/
def option? (sel : Selection) (name : String) : Option String :=
  Association.get? name sel.words.options

/-- The value of an option that must be given. -/
def option (sel : Selection) (name : String) : String := (sel.option? name).getD ""

/-- The integer of an option. -/
def integer? (sel : Selection) (name : String) : Option Int :=
  (sel.option? name).bind Command.integer?

/-- Whether a flag is given. -/
def flag (sel : Selection) (name : String) : Bool := (sel.option? name).isSome

/-- The operands that belong to the form, and those that are left over. -/
def operands (sel : Selection) : Except Stop (List String × List String) :=
  match sel.form.operand, sel.words.operands with
  | .one name, [] => sel.form.stopWith (.missingArgument name)
  | .one _, word :: rest => .ok ([word], rest)
  | .many name, [] => sel.form.stopWith (.missingArgument (name ++ "..."))
  | .many _, words => .ok (words, [])
  | .none, words => .ok ([], words)
  | .command, words => .ok ([], words)

/-- The file that a command line reads, if there is one. -/
def file? (sel : Selection) : Option String :=
  if sel.form = .ingest then sel.words.operands.head? else none

/-- The first required option that is not given. -/
def missing? (sel : Selection) : Option OptionSpec :=
  sel.form.options.find? fun spec => spec.required && (sel.option? spec.name).isNone

/-- The text of the file that a command line reads; one that reads none takes it for empty. -/
def fileText (sel : Selection) (contents : String → Except Path.Fault String) : Except Stop String :=
  match sel.file? with
  | some file => (contents file).mapError (sel.form.stopAtFile "PAYLOAD_FILE" file)
  | none => .ok ""

/-- The command that a command line stands for, given the contents of files.  A form that only leads
on to others is no command. -/
def command (sel : Selection) (contents : String → Except Path.Fault String) : Except Stop Command := do
  let (operands, extra) ← sel.operands
  let text ← sel.fileText contents
  if let some spec := sel.missing? then sel.form.stopWith (.missingOption spec)
  if extra ≠ [] then sel.form.stopWith (.extraArguments extra)
  let first := operands.headD ""
  match sel.form with
  | .program | .environments => sel.form.stopWith .missingCommand
  | .init => return .init
  | .create => return .createEnvironment first (sel.option "--runtime") (sel.option "--path")
  | .list => return .listEnvironments
  | .display => return .showEnvironment first
  | .drop => return .dropEnvironment first (sel.flag "--yes")
  | .blocks => return .listBlocks first (sel.integer? "--start") (sel.integer? "--end")
  | .compare => return .compare operands ((sel.integer? "--height").getD 0) (sel.flag "--json")
  | .ingest => return .ingest text

end Selection

end ReplayLedger.Command
