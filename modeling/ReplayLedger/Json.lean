import ReplayLedger.Value.Literal

/-!
# Documents

Answers are documents of the JSON format.  An object keeps its fields in the order in which they
were given.  A document is printed either on one line or with one item a line and two spaces for
each level; characters outside printable ASCII are written by their UTF-16 units.
-/

namespace ReplayLedger

/-- A document. -/
inductive Json where
  | null
  | bool (b : Bool)
  | int (n : Int)
  | float (x : Binary64)
  | text (s : String)
  | array (items : List Json)
  | object (fields : List (String × Json))
  deriving Inhabited, Repr

namespace Json

/-- A byte string as marked hexadecimal text. -/
def bytes (bs : Bytes) : Json := text (Hex.marked bs)

/-- What may be absent is `null` then. -/
def option {α : Type} (f : α → Json) : Option α → Json
  | some a => f a
  | none => null

/-- An array of the documents of several items. -/
def list {α : Type} (f : α → Json) (items : List α) : Json := array (items.map f)

/-- One UTF-16 unit as an escape. -/
def unitEscape (n : Nat) : List Char :=
  '\\' :: 'u' :: Quoted.padded 4 n

/-- One character between the quotes of a text. -/
def escape (c : Char) : List Char :=
  let n := c.toNat
  if c = '"' ∨ c = '\\' then ['\\', c]
  else if n = 0x0A then ['\\', 'n']
  else if n = 0x0D then ['\\', 'r']
  else if n = 0x09 then ['\\', 't']
  else if n = 0x0C then ['\\', 'f']
  else if n = 0x08 then ['\\', 'b']
  else if 0x20 ≤ n ∧ n < 0x7F then [c]
  else if n < 0x10000 then unitEscape n
  else unitEscape (0xD800 + (n - 0x10000) / 0x400) ++ unitEscape (0xDC00 + (n - 0x10000) % 0x400)

/-- A text in quotes. -/
def quoted (s : String) : List Char :=
  '"' :: s.toList.flatMap escape ++ ['"']

/-- How the items of an array or object are set: on one line, or one a line. -/
inductive Layout where
  | compact
  | indented
  deriving DecidableEq, Repr

/-- What stands before an item at a level. -/
def Layout.lead : Layout → Nat → List Char
  | .compact, _ => []
  | .indented, level => '\n' :: List.replicate (2 * level) ' '

/-- What stands between two items at a level. -/
def Layout.gap : Layout → Nat → List Char
  | .compact, _ => [',', ' ']
  | .indented, level => ',' :: Layout.lead .indented level

/-- A floating point number in a document; three of them are words. -/
def floatText : Binary64 → String
  | .nan => "NaN"
  | .infinite negative => if negative then "-Infinity" else "Infinity"
  | x => x.toText

mutual

/-- A document as text. -/
def render (layout : Layout) (level : Nat) : Json → List Char
  | null => ['n', 'u', 'l', 'l']
  | bool b => if b then ['t', 'r', 'u', 'e'] else ['f', 'a', 'l', 's', 'e']
  | int n => (Numeral.ofInt n).toList
  | float x => (floatText x).toList
  | text s => quoted s
  | array [] => ['[', ']']
  | array (item :: rest) =>
    '[' :: layout.lead (level + 1) ++ render layout (level + 1) item
      ++ renderItems layout (level + 1) rest ++ layout.lead level ++ [']']
  | object [] => ['\x7b', '\x7d']
  | object ((name, item) :: rest) =>
    '\x7b' :: layout.lead (level + 1) ++ quoted name ++ ':' :: ' ' :: render layout (level + 1) item
      ++ renderFields layout (level + 1) rest ++ layout.lead level ++ ['\x7d']

/-- The items of an array behind the first one. -/
def renderItems (layout : Layout) (level : Nat) : List Json → List Char
  | [] => []
  | item :: rest => layout.gap level ++ render layout level item ++ renderItems layout level rest

/-- The fields of an object behind the first one. -/
def renderFields (layout : Layout) (level : Nat) : List (String × Json) → List Char
  | [] => []
  | (name, item) :: rest =>
    layout.gap level ++ quoted name ++ ':' :: ' ' :: render layout level item
      ++ renderFields layout level rest

end

mutual

/-- A raw value as a document: byte strings are marked hexadecimal text, and runtime kinds are
numbers.  A text that is not well formed has no document. -/
def ofValue : Value → Json
  | .null => null
  | .bool b => bool b
  | .int n => int n
  | .float x => float x
  | .text s => text s
  | .illFormed _ => null
  | .bytes data | .buffer data | .view data => bytes data
  | .runtime kind => int kind.number
  | .list items => array (ofValues items)
  | .record fields => object (ofNamedValues fields)

/-- Raw values as documents. -/
def ofValues : List Value → List Json
  | [] => []
  | v :: rest => ofValue v :: ofValues rest

/-- Named raw values as named documents. -/
def ofNamedValues : List (String × Value) → List (String × Json)
  | [] => []
  | (name, v) :: rest => (name, ofValue v) :: ofNamedValues rest

end

/-- A document on one line. -/
def compact (j : Json) : String := String.ofList (render .compact 0 j)

/-- A document with one item a line. -/
def indented (j : Json) : String := String.ofList (render .indented 0 j)

end Json

end ReplayLedger
