import ReplayLedger.Text.Numeral

/-!
# Misuse

Settings, records, versions and failures are put together from raw values.  Values of the wrong
form, or too many or too few of them, are refused, and a `Misuse` says why.
-/

namespace ReplayLedger

/-- Which numbers of arguments are taken. -/
inductive Arity where
  | exactly (n : Nat)
  | atLeast (n : Nat)
  | atMost (n : Nat)
  deriving DecidableEq, Repr, Inhabited

/-- How an arity is said. -/
def Arity.text : Arity → String
  | exactly n => "exactly " ++ Numeral.ofInt n
  | atLeast n => "at least " ++ Numeral.ofInt n
  | atMost n => "at most " ++ Numeral.ofInt n

/-- Why raw values are refused. -/
inductive Misuse where
  | tooFewParts (expected count : Nat)
  | tooManyParts (expected : Nat)
  /-- A value that has no parts. -/
  | noParts (form : String)
  /-- A value whose items are asked for and that has none. -/
  | notIterable (form : String)
  /-- Two values that are not ordered. -/
  | notComparable (sign left right : String)
  /-- A value without the member that is asked for. -/
  | noMember (form member : String)
  | unknownArgument (callee name : String)
  | missingArguments (callee : String) (names : List String)
  | tooManyArguments (callee : String) (expected given : Nat)
  /-- Arguments of a callee, which need not have a name, in the wrong number. -/
  | argumentCount (callee : Option String) (arity : Arity) (given : Nat)
  | argumentForm (callee : Option String) (position : Nat) (expected form : String)
  /-- A value that cannot be copied. -/
  | notCopyable (form : String)
  | notBytesLike (form : String)
  /-- A value that is no position. -/
  | notPosition (form : String)
  | positionTooLarge
  | countTooLarge (form : String)
  | positionOutside
  | endWithoutOffset
  | notSequence
  | emptySequence
  | notFailure (index : Nat)
  deriving DecidableEq, Repr, Inhabited

namespace Misuse

/-- The name of the kind of a misuse. -/
def name : Misuse → String
  | tooFewParts .. | tooManyParts _ | countTooLarge _ | emptySequence | notFailure _ => "ValueError"
  | noMember .. => "AttributeError"
  | positionTooLarge => "OverflowError"
  | positionOutside => "IndexError"
  | _ => "TypeError"

/-- The part of a message that names the callee. -/
def calleeText : Option String → String
  | some callee => callee ++ " "
  | none => ""

/-- Names in a row, each in quotes. -/
def enumeration : List String → String
  | [] => ""
  | [a] => "'" ++ a ++ "'"
  | [a, b] => "'" ++ a ++ "' and '" ++ b ++ "'"
  | names =>
    String.join (names.dropLast.map fun a => "'" ++ a ++ "', ") ++ "and '" ++ names.getLastD "" ++ "'"

/-- The message of a misuse. -/
def message : Misuse → String
  | tooFewParts expected count =>
    "not enough values to unpack (expected " ++ Numeral.ofInt expected ++ ", got "
      ++ Numeral.ofInt count ++ ")"
  | tooManyParts expected => "too many values to unpack (expected " ++ Numeral.ofInt expected ++ ")"
  | noParts form => "cannot unpack non-iterable " ++ form ++ " object"
  | notIterable form => "'" ++ form ++ "' object is not iterable"
  | notComparable sign left right =>
    "'" ++ sign ++ "' not supported between instances of '" ++ left ++ "' and '" ++ right ++ "'"
  | noMember form member => "'" ++ form ++ "' object has no attribute '" ++ member ++ "'"
  | unknownArgument callee name => callee ++ " got an unexpected keyword argument '" ++ name ++ "'"
  | missingArguments callee names =>
    callee ++ " missing " ++ Numeral.ofInt names.length ++ " required positional argument"
      ++ (if names.length = 1 then "" else "s") ++ ": " ++ enumeration names
  | tooManyArguments callee expected given =>
    callee ++ " takes " ++ Numeral.ofInt expected ++ " positional arguments but "
      ++ Numeral.ofInt given ++ " were given"
  | argumentCount callee arity given =>
    callee.getD "function" ++ " takes " ++ arity.text ++ " arguments (" ++ Numeral.ofInt given
      ++ " given)"
  | argumentForm callee position expected form =>
    calleeText callee ++ "argument " ++ Numeral.ofInt position ++ " must be " ++ expected ++ ", not "
      ++ form
  | notCopyable form => "cannot pickle " ++ form ++ " objects"
  | notBytesLike form => "a bytes-like object is required, not '" ++ form ++ "'"
  | notPosition form => "'" ++ form ++ "' object cannot be interpreted as an integer"
  | positionTooLarge => "Python int too large to convert to C ssize_t"
  | countTooLarge form => "cannot fit '" ++ form ++ "' into an index-sized integer"
  | positionOutside => "string index out of range"
  | endWithoutOffset => "end_offset must be provided when end_lineno is provided"
  | notSequence => "second argument (exceptions) must be a sequence"
  | emptySequence => "second argument (exceptions) must be a non-empty sequence"
  | notFailure index =>
    "Item " ++ Numeral.ofInt index ++ " of second argument (exceptions) is not an exception"

/-- Refuses arguments of a callee that do not match the names of its parameters. -/
def checkCount (callee : String) (parameters : List String) (given : Nat) : Except Misuse Unit :=
  if given < parameters.length then .error (missingArguments callee (parameters.drop given))
  else if parameters.length < given then
    -- the callee counts itself among its arguments
    .error (tooManyArguments callee (parameters.length + 1) (given + 1))
  else .ok ()

end Misuse

end ReplayLedger
