import ReplayLedger.Text.Utf8

/-!
# Percent signs for bytes

In an address a byte can be written as a percent sign and two hexadecimal digits.  A percent sign
that no two digits follow stands for itself.  What is written in this way are the bytes of the UTF-8
form of a text, except those of the characters that an address keeps.
-/

namespace ReplayLedger.Percent

/-- The value of a byte that is a hexadecimal digit. -/
def digitValue? (b : UInt8) : Option Nat := Hex.digitValue? (Char.ofNat b.toNat)

/-- The byte that two hexadecimal digits stand for. -/
def ofDigits? (high low : UInt8) : Option UInt8 := do
  return UInt8.ofNat (16 * (← digitValue? high) + (← digitValue? low))

/-- The byte of a percent sign. -/
def sign : UInt8 := UInt8.ofNat '%'.toNat

/-- The bytes that bytes with percent signs stand for. -/
def decodeBytes : Bytes → Bytes
  | [] => []
  | [b] => [b]
  | [b, c] => [b, c]
  | b :: high :: low :: rest =>
    match if b = sign then ofDigits? high low else none with
    | some value => value :: decodeBytes rest
    | none => b :: decodeBytes (high :: low :: rest)

/-- The text that a text with percent signs stands for. -/
def decode (cs : List Char) : String :=
  Utf8.decodeLossy (decodeBytes (Utf8.encode (String.ofList cs)))

/-- The text that a part of a query stands for, where a plus sign is a space. -/
def decodeQuery (cs : List Char) : String :=
  decode (cs.map fun c => if c = '+' then ' ' else c)

/-- The characters that are never written with a percent sign. -/
def isUnreserved (c : Char) : Bool := c.isAlphanum || c ∈ ['_', '.', '-', '~']

/-- A byte with a percent sign and capital digits. -/
def encodeByte (b : UInt8) : List Char := '%' :: (Hex.pair b).map Char.toUpper

/-- A text with percent signs; the unreserved characters and some more are kept. -/
def encode (keeps : List Char) (s : String) : String :=
  String.ofList (s.toList.flatMap fun c =>
    if isUnreserved c || c ∈ keeps then [c]
    else (Utf8.encode (String.singleton c)).flatMap encodeByte)

/-- A part of a query with percent signs, and plus signs for spaces. -/
def encodeQuery (s : String) : String :=
  String.ofList ((encode [' '] s).toList.map fun c => if c = ' ' then '+' else c)

end ReplayLedger.Percent
