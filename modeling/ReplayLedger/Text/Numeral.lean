import ReplayLedger.Text.Blank
import ReplayLedger.Text.Digit

/-!
# Integers as text

A numeral is an optional sign and a row of decimal digits in which single underscores may separate
digits, with white space around it.  The command line takes digits of any script.
-/

namespace ReplayLedger.Numeral

/-- The longest row of digits that is still read as a number. -/
def maxDigits : Nat := 4300

/-- The value of a row of digits with single underscores between them, given the value of the
digits already read. -/
def magnitudeFrom? (value? : Char → Option Nat) (n : Nat) : List Char → Option Nat
  | [] => some n
  | '_' :: c :: rest => do magnitudeFrom? value? (10 * n + (← value? c)) rest
  | c :: rest => do magnitudeFrom? value? (10 * n + (← value? c)) rest

/-- The value of a non-empty row of digits with single underscores between them. -/
def magnitude? (value? : Char → Option Nat) : List Char → Option Nat
  | [] => none
  | c :: rest => do magnitudeFrom? value? (← value? c) rest

/-- Splits off an optional sign; `true` stands for minus. -/
def splitSign : List Char → Bool × List Char
  | '-' :: rest => (true, rest)
  | '+' :: rest => (false, rest)
  | cs => (false, cs)

/-- A number from its sign and magnitude. -/
def signed (negative : Bool) (n : Nat) : Int :=
  if negative then -(n : Int) else n

/-- The value of an ASCII digit. -/
def asciiValue? (c : Char) : Option Nat :=
  if 0x30 ≤ c.toNat ∧ c.toNat ≤ 0x39 then some (c.toNat - 0x30) else none

/-- How many digits a numeral on the command line has. -/
def digitCount (s : String) : Nat :=
  (s.toList.filter fun c => (Text.decimalValue? c).isSome).length

/-- How many decimal digits a text starts with behind white space and a sign, where single
underscores may separate them.  A row that starts or ends with an underscore, or that holds two of
them side by side, has none. -/
def leadingDigits (s : String) : Nat :=
  let (_, cs) := splitSign (s.toList.dropWhile Text.isWhiteSpace)
  let row := cs.takeWhile fun c => c = '_' || (Text.decimalValue? c).isSome
  if (magnitude? Text.decimalValue? row).isSome then (row.filter (· ≠ '_')).length else 0

/-- The integer that a text on the command line stands for. -/
def ofText? (s : String) : Option Int :=
  let (negative, ds) := splitSign (Text.trimWhile Text.isWhiteSpace s.toList)
  (magnitude? Text.decimalValue? ds).map (signed negative)

/-- The decimal digits of a natural number. -/
def digits (n : Nat) : List Char :=
  Nat.toDigits 10 n

/-- An integer as decimal text. -/
def ofInt (n : Int) : String :=
  String.ofList (if n < 0 then '-' :: digits n.natAbs else digits n.natAbs)

end ReplayLedger.Numeral
