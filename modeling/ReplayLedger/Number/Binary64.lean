import ReplayLedger.Text.Numeral

/-!
# Binary floating point numbers of 64 bits

A number is kept as its sign, a mantissa below `2 ^ 53` and a power of two, so that all arithmetic
on it is exact.  Reading a decimal numeral rounds to the nearest such number, ties to an even
mantissa.
-/

namespace ReplayLedger

/-- A binary floating point number of 64 bits. -/
inductive Binary64 where
  | nan
  | infinite (negative : Bool)
  /-- The number `mantissa * 2 ^ exponent`, with its sign; zero has a sign too. -/
  | finite (negative : Bool) (mantissa : Nat) (exponent : Int)
  deriving DecidableEq, Repr, Inhabited

namespace Binary64

/-- The least exponent of a number of this format. -/
def minExponent : Int := -1074

/-- The greatest exponent of a number of this format. -/
def maxExponent : Int := 971

/-- A power of two. -/
def twoTo (n : Nat) : Nat := Nat.pow 2 n

/-- A power of ten. -/
def tenTo (n : Nat) : Nat := Nat.pow 10 n

/-- The quotient rounded to the nearest integer, a half to the even neighbour. -/
def roundDiv (num den : Nat) : Nat :=
  let q := num / den
  let r := num % den
  if 2 * r < den then q
  else if den < 2 * r then q + 1
  else if q % 2 = 0 then q else q + 1

/-- The positive number nearest to `num / den`. -/
def ofRatio (negative : Bool) (num den : Nat) : Binary64 :=
  -- the exponent that leaves a mantissa of 53 bits, or one bit more
  let rough : Int := (num.log2 : Int) - (den.log2 : Int) - 53
  let scaled (e : Int) : Nat × Nat :=
    if 0 ≤ e then (num, den * twoTo e.toNat) else (num * twoTo (-e).toNat, den)
  let wide (e : Int) : Bool := let (n, d) := scaled e; twoTo 53 * d ≤ n
  let e₀ := if wide rough then rough + 1 else rough
  let e := max (if wide e₀ then e₀ + 1 else e₀) minExponent
  let (n, d) := scaled e
  let m := roundDiv n d
  let (m, e) := if m = twoTo 53 then (twoTo 52, e + 1) else (m, e)
  if maxExponent < e then infinite negative else finite negative m e

/-- The number nearest to `digits * 10 ^ exponent`.  Numerals far outside the range of the format
are settled before any power is computed. -/
def ofDecimal (negative : Bool) (digits : Nat) (exponent : Int) : Binary64 :=
  let size : Int := (Numeral.digits digits).length + exponent
  if digits = 0 ∨ size < -400 then finite negative 0 0
  else if 400 < size then infinite negative
  else if 0 ≤ exponent then ofRatio negative (digits * tenTo exponent.toNat) 1
  else ofRatio negative digits (tenTo (-exponent).toNat)

/-- The integer that a number is, if it is one. -/
def toInt? : Binary64 → Option Int
  | nan => none
  | infinite _ => none
  | finite negative m e =>
    if 0 ≤ e then some (Numeral.signed negative (m * twoTo e.toNat))
    else if m % twoTo (-e).toNat = 0 then some (Numeral.signed negative (m / twoTo (-e).toNat))
    else none

/-- Neither infinite nor undefined. -/
def isFinite : Binary64 → Bool
  | finite .. => true
  | _ => false

/-- Greater than zero. -/
def isPositive : Binary64 → Bool
  | finite false m _ => m != 0
  | infinite false => true
  | _ => false

/-- Reads the fraction and exponent of a decimal numeral behind its whole part. -/
def readDecimal? (negative : Bool) (whole rest : List Char) : Option Binary64 := do
  let (fraction, rest) := match rest with
    | '.' :: cs => cs.span Char.isDigit
    | cs => ([], cs)
  let digits ← Numeral.magnitude? Numeral.asciiValue? (whole ++ fraction)
  let shift ← match rest with
    | [] => some (0 : Int)
    | c :: cs =>
      if c = 'e' ∨ c = 'E' then do
        let (minus, ds) := Numeral.splitSign cs
        let n ← Numeral.magnitude? Numeral.asciiValue? ds
        some (Numeral.signed minus n)
      else none
  return ofDecimal negative digits (shift - fraction.length)

/-- Reads a decimal numeral, or one of the words `nan` and `inf`. -/
def ofText? (s : String) : Option Binary64 :=
  let (negative, cs) := Numeral.splitSign s.toList
  if cs = ['n', 'a', 'n'] then some nan
  else if cs = ['i', 'n', 'f'] then some (infinite negative)
  else
    let (whole, rest) := cs.span Char.isDigit
    readDecimal? negative whole rest

/-- Takes out underscores, each of which must stand between two digits. -/
def dropUnderscores? (previous : Char) : List Char → Option (List Char)
  | [] => if previous = '_' then none else some []
  | c :: rest =>
    if c = '_' then if previous.isDigit then dropUnderscores? c rest else none
    else if previous = '_' ∧ ¬ c.isDigit then none
    else (dropUnderscores? c rest).map (c :: ·)

/-- A digit of any script as an ASCII digit. -/
def asciiDigit (c : Char) : Char :=
  match Text.decimalValue? c with
  | some n => Char.ofNat (0x30 + n)
  | none => c

/-- Reads a decimal numeral with digits of any script, single underscores between them and white
space around it, or one of the words for what is infinite or undefined, in letters of either
case. -/
def ofLooseText? (s : String) : Option Binary64 := do
  let cs := (Text.trimWhile Text.isWhiteSpace s.toList).map asciiDigit
  let cs ← dropUnderscores? ' ' cs
  let (negative, word) := Numeral.splitSign (cs.map Char.toLower)
  if word = "infinity".toList then return infinite negative
  ofText? (String.ofList (cs.map Char.toLower))

end Binary64

end ReplayLedger
