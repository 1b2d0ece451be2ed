import ReplayLedger.Number.Binary64

/-!
# The shortest decimal text of a floating point number

A number is written with the fewest digits that read back to it; of several such decimals the
nearest one is taken.  Every finite number has a finite decimal expansion: with `g = 2 ^ e` for an
exponent `e ≥ 0` and `g = 5 ^ (-e)` otherwise, the number `m * 2 ^ e` is `100 * m * g` units of a
power of ten, the next number above lies `100 * g` units away, and the next one below `100 * g` or,
at a power of two, `50 * g`.  What reads back to the number is thus a range of naturals, and its
members are tried with one digit, two digits, and so on.
-/

namespace ReplayLedger.Binary64

/-- A decimal numeral `digits * 10 ^ exponent`. -/
structure Decimal where
  digits : Nat
  exponent : Int
  deriving DecidableEq, Repr

namespace Decimal

/-- Moves trailing zeros of the digits into the exponent.  A numeral has no more than `fuel` of
them. -/
def strip : Nat → Decimal → Decimal
  | 0, d => d
  | fuel + 1, d =>
    if d.digits % 10 = 0 ∧ d.digits ≠ 0 then strip fuel ⟨d.digits / 10, d.exponent + 1⟩ else d

end Decimal

/-- The naturals that read back to a number: those at most `below` under and `above` over `value`,
the ends included for an even mantissa. -/
structure Range where
  value : Nat
  below : Nat
  above : Nat
  closed : Bool

/-- Whether a natural reads back to the number. -/
def Range.contains (r : Range) (n : Nat) : Bool :=
  if r.closed then r.value ≤ n + r.below && n ≤ r.value + r.above
  else r.value < n + r.below && n < r.value + r.above

/-- The member of the range that is a multiple of `step`, the nearer one if there are two; a tie
goes to the even multiple. -/
def Range.multiple? (r : Range) (step : Nat) : Option Nat :=
  let low := r.value / step
  let high := low + 1
  let down := r.value - low * step
  let up := high * step - r.value
  match r.contains (low * step), r.contains (high * step) with
  | true, true =>
    if down < up then some low
    else if up < down then some high
    else if low % 2 = 0 then some low else some high
  | true, false => some low
  | false, true => some high
  | false, false => none

/-- The shortest numeral in the range, tried with `n` digits and more; `size` is the number of
digits of the value. -/
def Range.shortestFrom (r : Range) (size : Nat) : Nat → Nat → Decimal
  | 0, _ => ⟨r.value, 0⟩
  | fuel + 1, n =>
    match r.multiple? (tenTo (size - n)) with
    | some digits => ⟨digits, (size - n : Nat)⟩
    | none => shortestFrom r size fuel (n + 1)

/-- The shortest decimal numeral of the positive number `m * 2 ^ e`. -/
def shortest (m : Nat) (e : Int) : Decimal :=
  let g := if 0 ≤ e then twoTo e.toNat else Nat.pow 5 (-e).toNat
  let places : Int := if 0 ≤ e then 2 else 2 - e
  let value := 100 * m * g
  let below := if m = twoTo 52 ∧ minExponent < e then 25 * g else 50 * g
  let range : Range := ⟨value, below, 50 * g, m % 2 = 0⟩
  let size := (Numeral.digits value).length
  let d := range.shortestFrom size size 1
  Decimal.strip size ⟨d.digits, d.exponent - places⟩

/-- An exponent with its sign and at least two digits. -/
def exponentText (n : Int) : List Char :=
  let ds := Numeral.digits n.natAbs
  (if n < 0 then '-' else '+') :: (if ds.length < 2 then '0' :: ds else ds)

/-- Writes a numeral positionally when its point stands at most four zeros before the first digit
and at most sixteen places behind it, and with an exponent otherwise. -/
def Decimal.toText (d : Decimal) : List Char :=
  let ds := Numeral.digits d.digits
  let point : Int := ds.length + d.exponent
  if -4 < point ∧ point ≤ 16 then
    if point ≤ 0 then '0' :: '.' :: List.replicate (-point).toNat '0' ++ ds
    else if point < ds.length then ds.take point.toNat ++ '.' :: ds.drop point.toNat
    else ds ++ List.replicate (point.toNat - ds.length) '0' ++ ['.', '0']
  else
    let tail := ds.drop 1
    ds.take 1 ++ (if tail = [] then [] else '.' :: tail) ++ 'e' :: exponentText (point - 1)

/-- The text of a number. -/
def toText : Binary64 → String
  | nan => "nan"
  | infinite negative => if negative then "-inf" else "inf"
  | finite negative m e =>
    let body := if m = 0 then ['0', '.', '0'] else (shortest m e).toText
    String.ofList (if negative then '-' :: body else body)

end ReplayLedger.Binary64
