import ReplayLedger.Value.Comparison
import ReplayLedger.Value.Literal

/-!
# Failures from outside the store

A failure that does not come from the store is known by its name and by what it was raised with.
Most of them say nothing, their only argument, or all of their arguments.  Five families have a
wording of their own, and check what they are raised with:

* a *system failure* has a number, a text, and up to two files; the number may stand for a narrower
  kind;
* an *encoding failure* names the positions of a text or byte string that cannot be converted;
* a *syntax failure* names a file and a line;
* a *missing key* is quoted;
* a *group* holds other failures, which no raw value is.
-/

namespace ReplayLedger

/-- A failure from outside the store. -/
structure Foreign where
  name : String
  description : String
  deriving DecidableEq, Repr, Inhabited

namespace Value

/-- The integer that a value is, truth values and runtime kinds included. -/
def index? : Value → Option Int
  | bool b => some (if b then 1 else 0)
  | v => v.int?

/-- The value, unless it is `null`. -/
def given? : Value → Option Value
  | null => none
  | v => some v

/-- What a complaint about an argument calls the form of a value. -/
def argumentForm : Value → String
  | null => "None"
  | v => v.formName

end Value

namespace Foreign

/-- What most failures say: nothing, their only argument, or all of them. -/
def plainText : List Value → String
  | [] => ""
  | [argument] => argument.display
  | arguments => "(" ++ Value.commaSeparated (arguments.map Value.literal) ++ ")"

/-! ### System failures -/

/-- The names of system failures that a number may narrow down. -/
def generalSystem : List String := ["OSError", "IOError", "EnvironmentError"]

/-- The names of system failures of one kind. -/
def narrowSystem : List String :=
  ["BlockingIOError", "BrokenPipeError", "ChildProcessError", "ConnectionAbortedError",
    "ConnectionError", "ConnectionRefusedError", "ConnectionResetError", "FileExistsError",
    "FileNotFoundError", "InterruptedError", "IsADirectoryError", "NotADirectoryError",
    "PermissionError", "ProcessLookupError", "TimeoutError"]

/-- The kind that the number of a system failure stands for. -/
def kindOfNumber? (n : Int) : Option String :=
  let kinds : List (List Int × String) :=
    [([1, 13], "PermissionError"), ([2], "FileNotFoundError"), ([3], "ProcessLookupError"),
      ([4], "InterruptedError"), ([10], "ChildProcessError"), ([11, 114, 115], "BlockingIOError"),
      ([17], "FileExistsError"), ([20], "NotADirectoryError"), ([21], "IsADirectoryError"),
      ([32, 108], "BrokenPipeError"), ([103], "ConnectionAbortedError"),
      ([104], "ConnectionResetError"), ([110], "TimeoutError"), ([111], "ConnectionRefusedError")]
  (kinds.find? fun (numbers, _) => n ∈ numbers).map (·.2)

/-- The name of a system failure with a number. -/
def systemName (name : String) (number : Value) : String :=
  if name ∈ generalSystem then (number.index?.bind kindOfNumber?).getD "OSError" else name

/-- The integers that fit into a position. -/
def IsPosition (n : Int) : Prop := -0x8000000000000000 ≤ n ∧ n < 0x8000000000000000

instance (n : Int) : Decidable (IsPosition n) := inferInstanceAs (Decidable (_ ∧ _))

/-- The file of a system failure.  Where an operation would block, a number in its place tells how
much was written, and is not shown. -/
def systemFile (name : String) (v : Value) : Except Misuse (Option Value) :=
  match name, v with
  | "BlockingIOError", .float _ => .error (.notPosition v.formName)
  | "BlockingIOError", v =>
    match v.index? with
    | some n => if IsPosition n then .ok none else .error (.countTooLarge v.formName)
    | none => .ok v.given?
  | _, v => .ok v.given?

/-- A system failure.  Of five arguments the fourth has no meaning. -/
def system (name : String) (arguments : List Value) : Except Misuse Foreign :=
  match arguments with
  | number :: text :: more =>
    if 3 < more.length then plain
    else do
      let name := systemName name number
      let file ← systemFile name (more.headD Value.null)
      let other := (more[2]?.getD Value.null).given?
      let files := match file, other with
        | some f, some g => ": " ++ f.literal ++ " -> " ++ g.literal
        | some f, none => ": " ++ f.literal
        | none, _ => ""
      return ⟨name, "[Errno " ++ number.display ++ "] " ++ text.display ++ files⟩
  | _ => plain
where
  /-- A failure without a number. -/
  plain : Except Misuse Foreign :=
    .ok ⟨if name ∈ generalSystem then "OSError" else name, plainText arguments⟩

/-! ### Encoding failures -/

/-- An argument that must be a text. -/
def textArgument (callee : Option String) (position : Nat) : Value → Except Misuse String
  | .text s => .ok s
  | v => .error (.argumentForm callee position "str" v.argumentForm)

/-- An argument that must be a position. -/
def positionArgument (v : Value) : Except Misuse Int :=
  match v.index? with
  | some n => if IsPosition n then .ok n else .error .positionTooLarge
  | none => .error (.notPosition v.formName)

/-- The positions from `start` up to, but without, `stop`.  In front of the first integer that fits
into a position stands the last one. -/
def rangeText (start stop : Int) : String :=
  Numeral.ofInt start ++ "-" ++ Numeral.ofInt (Int.bmod (stop - 1) 0x10000000000000000)

/-- The character of a text that a failure is about, if it is about a single one. -/
def singleChar? (s : String) (start stop : Int) : Except Misuse (Option Char) :=
  if start < s.length ∧ stop = start + 1 then
    if start < 0 then .error .positionOutside else .ok s.toList[start.toNat]?
  else .ok none

/-- The characters of a text that a failure is about. -/
def charactersText (s : String) (start stop : Int) : Except Misuse String := do
  match ← singleChar? s start stop with
  | some c =>
    return "character '" ++ String.ofList (Quoted.code c.toNat) ++ "' in position "
      ++ Numeral.ofInt start
  | none => return "characters in position " ++ rangeText start stop

/-- The byte at a position.  In front of the first byte all bits are set; in front of none, no bit
is. -/
def byteAt? (data : Bytes) (position : Int) : Option UInt8 :=
  if 0 ≤ position then data[position.toNat]? else some (if data.isEmpty then 0x00 else 0xFF)

/-- The bytes that a failure is about. -/
def bytesText (data : Bytes) (start stop : Int) : String :=
  match byteAt? data start, decide (stop = start + 1) with
  | some b, true =>
    "byte 0x" ++ String.ofList (Hex.pair b) ++ " in position " ++ Numeral.ofInt start
  | _, _ => "bytes in position " ++ rangeText start stop

/-- A text that cannot be encoded. -/
def encoding : List Value → Except Misuse String
  | [codec, object, start, stop, reason] => do
    let codec ← textArgument none 1 codec
    let object ← textArgument none 2 object
    let start ← positionArgument start
    let stop ← positionArgument stop
    let reason ← textArgument none 5 reason
    return "'" ++ codec ++ "' codec can't encode " ++ (← charactersText object start stop) ++ ": "
      ++ reason
  | arguments => .error (.argumentCount none (.exactly 5) arguments.length)

/-- A byte string that cannot be decoded. -/
def decoding : List Value → Except Misuse String
  | [codec, object, start, stop, reason] => do
    let codec ← textArgument none 1 codec
    let start ← positionArgument start
    let stop ← positionArgument stop
    let reason ← textArgument none 5 reason
    match object.bytes? with
    | some data =>
      return "'" ++ codec ++ "' codec can't decode " ++ bytesText data start stop ++ ": " ++ reason
    | none => .error (.notBytesLike object.formName)
  | arguments => .error (.argumentCount none (.exactly 5) arguments.length)

/-- A text that cannot be translated. -/
def translating : List Value → Except Misuse String
  | [object, start, stop, reason] => do
    let object ← textArgument none 1 object
    let start ← positionArgument start
    let stop ← positionArgument stop
    let reason ← textArgument none 4 reason
    return "can't translate " ++ (← charactersText object start stop) ++ ": " ++ reason
  | arguments => .error (.argumentCount none (.exactly 4) arguments.length)

/-! ### Syntax failures -/

/-- The names of syntax failures. -/
def syntaxNames : List String := ["SyntaxError", "IndentationError", "TabError"]

/-- The last part of a path. -/
def baseName (path : String) : String :=
  String.ofList (path.toList.reverse.takeWhile (· ≠ '/')).reverse

/-- The line of a syntax failure; one that is out of range is shown as `-1`. -/
def line? : Value → Option Int
  | .int n => some (if IsPosition n then n else -1)
  | _ => none

/-- The place of a syntax failure. -/
def placeText (file line : Value) : String :=
  match file.text?, line? line with
  | some f, some n => " (" ++ baseName f ++ ", line " ++ Numeral.ofInt n ++ ")"
  | some f, none => " (" ++ baseName f ++ ")"
  | none, some n => " (line " ++ Numeral.ofInt n ++ ")"
  | none, none => ""

/-- A syntax failure: a message, and a record of the place with four parts or six. -/
def syntaxText : List Value → Except Misuse String
  | [] => .ok (Value.literal .null)
  | [message, place] =>
    match place.items? with
    | none => .error (.notIterable place.formName)
    | some (file :: line :: more) =>
      if more.length < 2 then .error (.argumentCount none (.atLeast 4) (more.length + 2))
      else if 4 < more.length then .error (.argumentCount none (.atMost 6) (more.length + 2))
      else if more.length = 3 then .error .endWithoutOffset
      else .ok (message.display ++ placeText file line)
    | some few => .error (.argumentCount none (.atLeast 4) few.length)
  | message :: _ => .ok message.display

/-! ### Groups -/

/-- The names of groups of failures. -/
def groupNames : List String := ["BaseExceptionGroup", "ExceptionGroup"]

/-- Why raw values make no group of failures. -/
def groupMisuse (arguments : List Value) : Misuse :=
  let callee := some "BaseExceptionGroup.__new__()"
  match arguments with
  | [.text _, .record _] => .notSequence
  | [.text _, members] =>
    match members.items? with
    | none => .notSequence
    | some [] => .emptySequence
    | some _ => .notFailure 0
  | [message, _] => .argumentForm callee 1 "str" message.argumentForm
  | arguments => .argumentCount callee (.exactly 2) arguments.length

/-! ### All failures -/

/-- The failure with a name that is raised with some arguments. -/
def ofArguments (name : String) (arguments : List Value) : Except Misuse Foreign :=
  if name ∈ generalSystem ++ narrowSystem then system name arguments
  else if name ∈ syntaxNames then (syntaxText arguments).map (⟨name, ·⟩)
  else if name ∈ groupNames then .error (groupMisuse arguments)
  else if name = "UnicodeEncodeError" then (encoding arguments).map (⟨name, ·⟩)
  else if name = "UnicodeDecodeError" then (decoding arguments).map (⟨name, ·⟩)
  else if name = "UnicodeTranslateError" then (translating arguments).map (⟨name, ·⟩)
  else
    match name, arguments with
    | "KeyError", [key] => .ok ⟨name, key.literal⟩
    | name, arguments => .ok ⟨name, plainText arguments⟩

/-- The families of a failure. -/
def families (f : Foreign) : List String :=
  if f.name ∈ ["ValueError", "UnicodeError", "UnicodeDecodeError", "UnicodeEncodeError",
      "UnicodeTranslateError"] then ["ValueError"]
  else if f.name ∈ ["LookupError", "KeyError", "IndexError"] then ["LookupError"]
  else []

end Foreign

end ReplayLedger
