import ReplayLedger.Text.Blank
import ReplayLedger.Text.Capital

/-!
# Runtime kinds

An environment replays the chain with one of three runtimes: none at all (it only reads), an
interpreter, or a compiled backend.  Kinds are stored by number and named by keywords.
-/

namespace ReplayLedger

/-- The closed list of execution runtimes. -/
inductive RuntimeKind where
  | none
  | interpreter
  | wasm
  deriving DecidableEq, Repr, Inhabited

namespace RuntimeKind

/-- All kinds, in the order of their numbers. -/
def all : List RuntimeKind := [none, interpreter, wasm]

/-- The number under which a kind is stored. -/
def number : RuntimeKind → Int
  | none => 0
  | interpreter => 1
  | wasm => 2

/-- The keyword of a kind, in capital letters. -/
def keyword : RuntimeKind → String
  | none => "NONE"
  | interpreter => "INTERPRETER"
  | wasm => "WASM"

/-- The keyword of a kind, in small letters. -/
def name : RuntimeKind → String
  | none => "none"
  | interpreter => "interpreter"
  | wasm => "wasm"

/-- How a kind is shown to people. -/
def label : RuntimeKind → String
  | none => "None (Read-Only)"
  | interpreter => "Interpreter"
  | wasm => "Wasm"

/-- The kind with a number. -/
def ofNumber? (n : Int) : Option RuntimeKind :=
  all.find? fun kind => kind.number = n

/-- Capital letters, with a low line for every hyphen and every space. -/
def normalize (s : String) : String :=
  String.ofList ((Text.capitals (Text.trim s)).toList.map fun c =>
    if c = '-' ∨ c = ' ' then '_' else c)

/-- The kind that a text names: a keyword in any case, or one of the other words for reading only
and for compiled code. -/
def ofText? (s : String) : Option RuntimeKind :=
  let word := normalize s
  if word = "READ_ONLY" ∨ word = "READONLY" then some none
  else if word = "COMPILED" ∨ word = "COMPILED_BYTECODE" then some wasm
  else all.find? fun kind => kind.keyword = word

end RuntimeKind

end ReplayLedger
