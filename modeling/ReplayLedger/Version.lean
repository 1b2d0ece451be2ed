import ReplayLedger.Value.Comparison
import ReplayLedger.Value.Literal

/-!
# Version texts

A version has five parts: major, minor and micro number, release level and serial number.  A final
release shows the numbers only; other levels follow, with the serial number if it is above zero.
The parts are raw values, so they may be too many or too few, or not comparable with zero.
-/

namespace ReplayLedger.Version

/-- The number of parts of a version. -/
def partCount : Nat := 5

/-- The parts of this version. -/
def current : Value := .list [.int 0, .int 1, .int 0, .text "dev", .int 1]

/-- Whether a value is above zero; only numbers can be. -/
def isPositive (v : Value) : Except Misuse Bool :=
  match v.worth? with
  | some w => .ok (Value.Worth.below (.dyadic 0 0) w)
  | none => .error (.notComparable ">" v.formName "int")

/-- How a release level is shown: two levels by their first letter. -/
def levelText (level : Value) : String :=
  match level.text? with
  | some "dev" => ".dev"
  | some "alpha" => "a"
  | some "beta" => "b"
  | _ => level.display

/-- The level and serial number of a release that is not final. -/
def suffix (level serial : Value) : Except Misuse String := do
  if level.text? = some "final" then return ""
  else
    let positive ← isPositive serial
    return levelText level ++ (if positive then serial.display else "")

/-- The micro number, if there is one. -/
def microText : Value → String
  | .null => ""
  | micro => "." ++ micro.display

/-- The text of a version with some parts. -/
def ofParts (parts : List Value) : Except Misuse String :=
  match parts with
  | [major, minor, micro, level, serial] => do
    return major.display ++ "." ++ minor.display ++ microText micro ++ (← suffix level serial)
  | parts =>
    .error (if parts.length < partCount then .tooFewParts partCount parts.length
      else .tooManyParts partCount)

/-- The text of a version; a value that does not count as true stands for this version. -/
def render (version : Value) : Except Misuse String :=
  let version := if version.isTruthy then version else current
  match version.items? with
  | some parts => ofParts parts
  | none => .error (.noParts version.formName)

/-- The text of this version. -/
def text : String := "0.1.0.dev1"

end ReplayLedger.Version
