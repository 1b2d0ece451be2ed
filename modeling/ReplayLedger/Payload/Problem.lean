/-!
# What is wrong with a payload

A payload that does not have the required shape is refused with all its problems at once, each with
the place where it was found.
-/

namespace ReplayLedger.Payload

/-- One step on the way from a payload to a part of it. -/
inductive Place where
  | field (name : String)
  | index (i : Nat)
  deriving DecidableEq, Repr, Inhabited

/-- Why a part of a payload is refused. -/
inductive Fault where
  | notRecord (model : String)
  | missing
  | notList
  | notInteger
  | fractional
  | notFinite
  | notNumeral
  /-- A number outside the range in which it can be read. -/
  | outOfRange
  | negative
  | notText
  | notUtf8
  | emptyText
  | notBytes
  /-- A hexadecimal text that cannot be read; the message quotes it. -/
  | notHex (message : String)
  /-- A text that has no UTF-8 form; the message says why. -/
  | notEncodable (message : String)
  deriving DecidableEq, Repr, Inhabited

namespace Fault

/-- The identifier of a fault. -/
def tag : Fault → String
  | notRecord _ => "model_type"
  | missing => "missing"
  | notList => "list_type"
  | notInteger => "int_type"
  | fractional => "int_from_float"
  | notFinite => "finite_number"
  | notNumeral => "int_parsing"
  | outOfRange => "int_parsing_size"
  | negative => "greater_than_equal"
  | notText => "string_type"
  | notUtf8 => "string_unicode"
  | emptyText => "string_too_short"
  | notBytes => "bytes_type"
  | notHex _ | notEncodable _ => "value_error"

/-- The sentence that describes a fault. -/
def message : Fault → String
  | notRecord model => "Input should be a valid dictionary or instance of " ++ model
  | missing => "Field required"
  | notList => "Input should be a valid list"
  | notInteger => "Input should be a valid integer"
  | fractional => "Input should be a valid integer, got a number with a fractional part"
  | notFinite => "Input should be a finite number"
  | notNumeral => "Input should be a valid integer, unable to parse string as an integer"
  | outOfRange => "Unable to parse input string as an integer, exceeded maximum size"
  | negative => "Input should be greater than or equal to 0"
  | notText => "Input should be a valid string"
  | notUtf8 => "Input should be a valid string, unable to parse raw data as a unicode string"
  | emptyText => "String should have at least 1 character"
  | notBytes => "Input should be a valid bytes"
  | notHex message | notEncodable message => "Value error, " ++ message

end Fault

/-- A fault and the place where it was found. -/
structure Problem where
  place : List Place
  fault : Fault
  deriving DecidableEq, Repr, Inhabited

end ReplayLedger.Payload
