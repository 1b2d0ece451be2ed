import ReplayLedger.Error
import ReplayLedger.Number.Binary64
import ReplayLedger.Text.Small

/-!
# Quantities given as text

Numbers and truth values come as text on the command line and in addresses.  A text that stands for
none is refused.
-/

namespace ReplayLedger.Quantity

/-- The integer that a text stands for.  A row with too many digits is not read, whatever follows
it. -/
def integer (s : String) : Except Error Int := do
  let count := Numeral.leadingDigits s
  ensure (count ≤ Numeral.maxDigits) (.longNumeral count)
  require (Numeral.ofText? s) (.badNumeral s)

/-- The decimal number that a text stands for. -/
def decimal (s : String) : Except Error Binary64 :=
  require (Binary64.ofLooseText? s) (.badDecimal s)

/-- The words for what is true. -/
def trueWords : List String := ["true", "yes", "on", "y", "t", "1"]

/-- The words for what is false. -/
def falseWords : List String := ["false", "no", "off", "n", "f", "0"]

/-- The truth value that a text stands for, in letters of either case and with blanks around it. -/
def truth (s : String) : Except Error Bool :=
  let word := Text.smalls (Text.trim s)
  if word ∈ trueWords then .ok true
  else if word ∈ falseWords then .ok false
  else .error (.notTruth word)

end ReplayLedger.Quantity
