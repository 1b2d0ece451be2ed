import ReplayLedger.Text.Hex
import ReplayLedger.Text.Printable

/-!
# Quoted text and quoted bytes

Messages quote what they complain about.  The quotes are single ones, unless the text holds a single
quote and no double one.  The quote in use, the backslash, tab, line feed and carriage return are
escaped by a backslash; whatever is not printable is written by its code.
-/

namespace ReplayLedger.Quoted

/-- A number in hexadecimal digits, filled up with zeros to a width. -/
def padded (width n : Nat) : List Char :=
  let ds := (Nat.toDigits 16 n)
  List.replicate (width - ds.length) '0' ++ ds

/-- The code of a character that is not printable: two, four or eight hexadecimal digits. -/
def code (n : Nat) : List Char :=
  if n < 0x100 then '\\' :: 'x' :: padded 2 n
  else if n < 0x10000 then '\\' :: 'u' :: padded 4 n
  else '\\' :: 'U' :: padded 8 n

/-- The quote to use: the double one only where it saves an escape. -/
def quoteFor (cs : List Char) : Char :=
  if '\'' ∈ cs ∧ '"' ∉ cs then '"' else '\''

/-- One character between quotes; `plain` tells which characters stand for themselves. -/
def escape (plain : Char → Bool) (quote c : Char) : List Char :=
  if c = quote ∨ c = '\\' then ['\\', c]
  else if c = '\t' then ['\\', 't']
  else if c = '\n' then ['\\', 'n']
  else if c = '\r' then ['\\', 'r']
  else if plain c then [c]
  else code c.toNat

/-- Characters between quotes. -/
def enclose (plain : Char → Bool) (cs : List Char) : List Char :=
  let quote := quoteFor cs
  quote :: cs.flatMap (escape plain quote) ++ [quote]

/-- A text in quotes. -/
def text (s : String) : String :=
  String.ofList (enclose Text.isPrintable s.toList)

/-- Printable ASCII characters. -/
def isPlainByte (c : Char) : Bool :=
  0x20 ≤ c.toNat && c.toNat < 0x7F

/-- Each byte as the character with its code. -/
def byteChars (bs : Bytes) : List Char :=
  bs.map fun b => Char.ofNat b.toNat

/-- Bytes in quotes behind the letter `b`, each printable ASCII byte as its character. -/
def bytes (bs : Bytes) : String :=
  String.ofList ('b' :: enclose isPlainByte (byteChars bs))

/-- The bytes of a buffer, in the same way, but with every single quote escaped whatever the quotes
around it are. -/
def buffer (bs : Bytes) : String :=
  let cs := byteChars bs
  let quote := quoteFor cs
  "bytearray(" ++ String.ofList ('b' :: quote :: cs.flatMap (escape isPlainByte '\'') ++ [quote]) ++ ")"

end ReplayLedger.Quoted
