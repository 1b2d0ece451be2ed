import ReplayLedger.Text.Numeral

/-!
# Integers as texts of a payload

A text is read in two rounds.  A *plain* numeral is an optional minus sign and then a zero, or a row
of ASCII digits that does not start with one; it is read as it stands.  Any other text is tidied
first: the white space around it and a plus sign go, then the zeros in front with all underscores
among them, then a fraction of zeros, then underscores that stand alone inside.  What is left must
be plain.

Zeros are taken off before anything is known about what follows them, so a second sign may stand
behind them, and underscores among them may stand side by side.  Only the first round tells a
numeral that has too many digits from a text that is no numeral.
-/

namespace ReplayLedger

/-- What a text is read as where an integer is expected. -/
inductive IntegerText where
  | number (n : Int)
  | malformed
  | tooLong
  deriving DecidableEq, Repr, Inhabited

namespace IntegerText

/-- Reads a plain numeral.  Its row of digits has a limit, to which the sign does not count. -/
def readPlain (cs : List Char) : IntegerText :=
  let sign := cs.takeWhile (· = '-')
  let body := cs.drop sign.length
  let row := body.takeWhile Char.isDigit
  if 1 < sign.length then malformed
  else if row.head? = some '0' then if body = ['0'] then number 0 else malformed
  else if Numeral.maxDigits < row.length then tooLong
  else if row.length < body.length then malformed
  else match Numeral.magnitude? Numeral.asciiValue? row with
    | some n => number (Numeral.signed (sign ≠ []) n)
    | none => malformed

/-- The digits that a row may start with, and the minus sign. -/
def startsRow (c : Char) : Bool := c == '-' || (c.isDigit && c != '0')

/-- What stands behind zeros and underscores, the last of which was `last`.  A point keeps the
character in front of it, and so does the end. -/
def behindZeros (last : Char) : List Char → Option (List Char)
  | [] => some [last]
  | c :: rest =>
    if c = '0' ∨ c = '_' then behindZeros c rest
    else if c = '.' then some (last :: c :: rest)
    else if startsRow c then some (c :: rest)
    else none

/-- Takes off the zeros in front.  A text that starts with neither a digit nor a minus sign is
refused. -/
def dropZeros : List Char → Option (List Char)
  | [] => none
  | c :: rest =>
    if c = '0' then behindZeros c rest
    else if startsRow c then some (c :: rest)
    else none

/-- Takes off a fraction made of a point and one or more zeros. -/
def dropFraction (cs : List Char) : List Char :=
  match cs.span (· ≠ '.') with
  | (whole, '.' :: '0' :: zeros) => if zeros.all (· = '0') then whole else cs
  | _ => cs

/-- Whether two underscores stand side by side. -/
def hasDouble : List Char → Bool
  | '_' :: '_' :: _ => true
  | _ :: rest => hasDouble rest
  | [] => false

/-- Takes out the underscores, if all of them stand alone and inside. -/
def dropUnderscores (cs : List Char) : List Char :=
  if cs.head? = some '_' ∨ cs.getLast? = some '_' ∨ hasDouble cs then cs
  else cs.filter (· ≠ '_')

/-- Tidies what stands behind the sign. -/
def tidyBody (cs : List Char) : Option (List Char) :=
  (dropZeros cs).map fun cs => dropUnderscores (dropFraction cs)

/-- Tidies a text.  A plus sign goes, unless a minus sign follows at once. -/
def tidy (cs : List Char) : Option (List Char) :=
  match Text.trimWhile Text.isWhiteSpace cs with
  | '-' :: rest => (tidyBody rest).map ('-' :: ·)
  | '+' :: '-' :: _ => none
  | '+' :: rest => tidyBody rest
  | cs => tidyBody cs

/-- Reads a text. -/
def read (s : String) : IntegerText :=
  match readPlain s.toList with
  | malformed =>
    match (tidy s.toList).map readPlain with
    | some (number n) => number n
    | _ => malformed
  | reading => reading

end IntegerText

end ReplayLedger
