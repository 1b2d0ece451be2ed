import ReplayLedger.Error
import ReplayLedger.Value.Literal

/-!
# Arguments

Before a raw value reaches the store it is checked: binary fields must be byte strings, heights
non-negative integers, names texts that are not blank.  Whether a name is well formed is not checked
here: it turns out when the database is asked for it.
-/

namespace ReplayLedger.Argument

/-- The bytes of a binary field. -/
def bytes (field : String) (v : Value) : Except Error Bytes :=
  require v.bytes? (.notBytes field v.formName)

/-- The bytes of a binary field that must not be empty. -/
def nonEmptyBytes (field : String) (v : Value) : Except Error Bytes := do
  let data ← bytes field v
  ensure (data ≠ []) (.emptyBytes field)
  return data

/-- A block height. -/
def height (field : String) (v : Value) : Except Error Int := do
  let n ← require v.int? (.notInteger field v.formName)
  ensure (0 ≤ n) (.negativeHeight field n)
  return n

/-- A name.  It is only tested for blankness, never trimmed. -/
def name (field : String) (v : Value) : Except Error RawName := do
  let name ← require v.name? (.blankName field)
  ensure (¬ name.IsBlank) (.blankName field)
  return name

/-- The runtime kind that a value names: a kind, its number, or a text. -/
def runtimeKind? : Value → Option RuntimeKind
  | .runtime kind => some kind
  | .int n => RuntimeKind.ofNumber? n
  | .text s => RuntimeKind.ofText? s
  | _ => none

/-- A runtime kind. -/
def runtimeKind (v : Value) : Except Error RuntimeKind :=
  require (runtimeKind? v) (.unsupportedRuntime v.literal)

/-- The bytes of a hexadecimal text. -/
def hex (s : String) : Except Error Bytes :=
  require (Hex.read? s) (.badHex s)

end ReplayLedger.Argument
