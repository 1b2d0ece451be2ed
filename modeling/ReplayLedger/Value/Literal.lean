import ReplayLedger.Number.Shortest
import ReplayLedger.Text.Quoted
import ReplayLedger.Value

/-!
# The literal of a value

Messages show a value by its literal: texts in quotes, lists in brackets, records in braces.
-/

namespace ReplayLedger.Value

/-- Joins parts with a comma and a space. -/
def commaSeparated (parts : List String) : String :=
  String.intercalate ", " parts

/-- The literal of a truth value. -/
def boolLiteral (b : Bool) : String :=
  if b then "True" else "False"

mutual

/-- The literal of a value. -/
def literal : Value → String
  | null => "None"
  | bool b => boolLiteral b
  | int n => Numeral.ofInt n
  | float x => x.toText
  | text s => Quoted.text s
  | illFormed t => t.quoted
  | bytes data => Quoted.bytes data
  | buffer data => Quoted.buffer data
  | view _ => "<memory>"
  | runtime kind => "<RuntimeKind." ++ kind.keyword ++ ": " ++ Numeral.ofInt kind.number ++ ">"
  | list items => "[" ++ commaSeparated (literals items) ++ "]"
  | record fields => "\x7b" ++ commaSeparated (fieldLiterals fields) ++ "\x7d"

/-- The literals of several values. -/
def literals : List Value → List String
  | [] => []
  | v :: rest => literal v :: literals rest

/-- The fields of a record, each as the quoted name and the literal. -/
def fieldLiterals : List (String × Value) → List String
  | [] => []
  | (name, v) :: rest => (Quoted.text name ++ ": " ++ literal v) :: fieldLiterals rest

end

/-- A value inside running text: a text stands for itself and a runtime kind for its number. -/
def display : Value → String
  | text s => s
  | runtime kind => Numeral.ofInt kind.number
  | v => literal v

end ReplayLedger.Value
