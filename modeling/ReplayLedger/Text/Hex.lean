/-!
# Bytes as hexadecimal text

Bytes are written with two small hexadecimal digits each.  A reader takes digits of either case,
one optional marker `0x` or `0X` at the very start, and ASCII white space anywhere but inside a
pair of digits.
-/

namespace ReplayLedger

/-- Byte strings: hashes, values, contract sources. -/
abbrev Bytes := List UInt8

namespace Hex

/-- The small hexadecimal digit of a number below sixteen. -/
def digit (n : Nat) : Char :=
  if n < 10 then Char.ofNat (0x30 + n) else Char.ofNat (0x57 + n)

/-- The value of a hexadecimal digit of either case. -/
def digitValue? (c : Char) : Option Nat :=
  let n := c.toNat
  if 0x30 ≤ n ∧ n ≤ 0x39 then some (n - 0x30)
  else if 0x61 ≤ n ∧ n ≤ 0x66 then some (n - 0x57)
  else if 0x41 ≤ n ∧ n ≤ 0x46 then some (n - 0x37)
  else none

/-- The two digits of a byte, high half first. -/
def pair (b : UInt8) : List Char :=
  [digit (b.toNat / 16), digit (b.toNat % 16)]

/-- The digits of a byte string. -/
def digits (bs : Bytes) : List Char :=
  bs.flatMap pair

/-- A byte string as plain hexadecimal text. -/
def plain (bs : Bytes) : String :=
  String.ofList (digits bs)

/-- A byte string as hexadecimal text behind the marker `0x`. -/
def marked (bs : Bytes) : String :=
  String.ofList ('0' :: 'x' :: digits bs)

/-- ASCII white space: tab, line feed, vertical tab, form feed, carriage return and space. -/
def isSpace (c : Char) : Bool :=
  (0x09 ≤ c.toNat && c.toNat ≤ 0x0D) || c == ' '

/-- Reads pairs of digits, skipping white space before each pair and at the end. -/
def readPairs : List Char → Option Bytes
  | [] => some []
  | [c] => if isSpace c then some [] else none
  | c :: d :: rest =>
    if isSpace c then readPairs (d :: rest)
    else do
      let high ← digitValue? c
      let low ← digitValue? d
      let bs ← readPairs rest
      return UInt8.ofNat (16 * high + low) :: bs

/-- Drops the marker at the start, if there is one. -/
def dropMarker : List Char → List Char
  | '0' :: 'x' :: rest => rest
  | '0' :: 'X' :: rest => rest
  | cs => cs

/-- The bytes that a hexadecimal text stands for. -/
def read? (s : String) : Option Bytes :=
  readPairs (dropMarker s.toList)

end Hex

end ReplayLedger
