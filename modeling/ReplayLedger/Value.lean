import ReplayLedger.Number.Binary64
import ReplayLedger.RuntimeKind
import ReplayLedger.Text.Hex
import ReplayLedger.Text.Surrogate

/-!
# Raw values

A replay driver hands its facts over as raw values, before anything is known about them: numbers,
text, byte strings in one of three forms, lists and records.  The store looks at the form of a value
and either takes a fact out of it or refuses it.
-/

namespace ReplayLedger

/-- A raw value handed to the store. -/
inductive Value where
  | null
  | bool (b : Bool)
  | int (n : Int)
  | float (x : Binary64)
  | text (s : String)
  /-- A text that is not well formed. -/
  | illFormed (t : IllFormed)
  /-- A byte string. -/
  | bytes (data : Bytes)
  /-- A byte string that its owner may still change. -/
  | buffer (data : Bytes)
  /-- A view of bytes that are kept elsewhere. -/
  | view (data : Bytes)
  | runtime (kind : RuntimeKind)
  | list (items : List Value)
  /-- Named fields; no name occurs twice. -/
  | record (fields : List (String × Value))
  deriving Inhabited, Repr

namespace Value

/-- What messages call the form of a value. -/
def formName : Value → String
  | null => "NoneType"
  | bool _ => "bool"
  | int _ => "int"
  | float _ => "float"
  | text _ | illFormed _ => "str"
  | bytes _ => "bytes"
  | buffer _ => "bytearray"
  | view _ => "memoryview"
  | runtime _ => "RuntimeKind"
  | list _ => "list"
  | record _ => "dict"

/-- The bytes of a value in any of the three binary forms. -/
def bytes? : Value → Option Bytes
  | bytes data => some data
  | buffer data => some data
  | view data => some data
  | _ => none

/-- The integer that a value is; truth values are none, runtime kinds are their number. -/
def int? : Value → Option Int
  | int n => some n
  | runtime kind => some kind.number
  | _ => none

/-- The text that a value is. -/
def text? : Value → Option String
  | text s => some s
  | _ => none

end Value

/-- A name as it is handed over: a text, whether or not it is well formed. -/
inductive RawName where
  | text (s : String)
  | illFormed (t : IllFormed)
  deriving DecidableEq, Repr, Inhabited

/-- The name that a value is. -/
def Value.name? : Value → Option RawName
  | text s => some (.text s)
  | illFormed t => some (.illFormed t)
  | _ => none

namespace RawName

/-- A name is blank when it holds nothing but blanks, and surrogates are none. -/
def IsBlank : RawName → Prop
  | text s => Text.IsBlankText s
  | illFormed _ => False

instance : (name : RawName) → Decidable name.IsBlank
  | text s => inferInstanceAs (Decidable (Text.IsBlankText s))
  | illFormed _ => inferInstanceAs (Decidable False)

/-- A name inside running text. -/
def display : RawName → String
  | text s => s
  | illFormed t => t.quoted

instance : Coe RawName String := ⟨display⟩

end RawName

end ReplayLedger
