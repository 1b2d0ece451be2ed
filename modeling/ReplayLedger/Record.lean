import ReplayLedger.Json
import ReplayLedger.Value.Comparison

/-!
# Records

Rows leave the store as records with named fields.  A record can also be put together by hand from
raw values: every field must be given, and no other one.  Its document shows byte strings as marked
hexadecimal text and runtime kinds by their names.
-/

namespace ReplayLedger

/-- The types of records. -/
inductive RecordType where
  | environment
  | block
  | entry
  | contract
  | execution
  | contractVariable
  | variableInstance
  | map
  | mapEntry
  deriving DecidableEq, Repr, Inhabited

namespace RecordType

/-- All types of records. -/
def all : List RecordType :=
  [environment, block, entry, contract, execution, contractVariable, variableInstance, map, mapEntry]

/-- The name of a type of records. -/
def name : RecordType → String
  | environment => "Environment"
  | block => "Block"
  | entry => "StateEntry"
  | contract => "Contract"
  | execution => "ContractExecution"
  | contractVariable => "ContractVariable"
  | variableInstance => "VariableInstance"
  | map => "ContractMap"
  | mapEntry => "MapEntry"

/-- The type of records with a name. -/
def ofName? (name : String) : Option RecordType := all.find? (·.name = name)

/-- The fields of a type of records, in order. -/
def fields : RecordType → List String
  | environment => ["id", "name", "runtime", "path", "max_height"]
  | block => ["id", "environment_id", "height", "index_hash", "trie_root_hash"]
  | entry => ["id", "block_id", "key_hash", "value"]
  | contract => ["id", "environment_id", "block_id", "qualified_id", "source"]
  | execution => ["id", "block_id", "contract_id", "transaction_id"]
  | contractVariable => ["id", "contract_id", "key"]
  | variableInstance => ["id", "variable_id", "block_id", "height", "execution_id", "value"]
  | map => ["id", "contract_id", "name"]
  | mapEntry => ["id", "map_id", "block_id", "height", "key_hash", "value"]

end RecordType

namespace Value

mutual

/-- Whether a value holds a view of bytes, at any depth. -/
def holdsView : Value → Bool
  | view _ => true
  | list items => anyHoldsView items
  | record fields => anyFieldHoldsView fields
  | _ => false

/-- Whether one of several values holds a view. -/
def anyHoldsView : List Value → Bool
  | [] => false
  | v :: rest => holdsView v || anyHoldsView rest

/-- Whether one of several named values holds a view. -/
def anyFieldHoldsView : List (String × Value) → Bool
  | [] => false
  | (_, v) :: rest => holdsView v || anyFieldHoldsView rest

end

end Value

namespace RecordType

/-- A field of a record as a document. -/
def fieldJson : Value → Json
  | .runtime kind => .text kind.name
  | v => .ofValue v

/-- Checks that all fields of a type of records are given, and no other one. -/
def checkFields (type : RecordType) (given : List (String × Value)) : Except Misuse Unit :=
  let callee := type.name ++ ".__init__()"
  match given.find? fun (name, _) => name ∉ type.fields with
  | some (name, _) => .error (.unknownArgument callee name)
  | none =>
    match type.fields.filter fun name => name ∉ given.map (·.1) with
    | [] => .ok ()
    | missing => .error (.missingArguments callee missing)

/-- The document of a record that is put together from raw values.  A record is shown as a copy, and
a view of bytes cannot be copied. -/
def toJson (type : RecordType) (given : List (String × Value)) : Except Misuse Json := do
  type.checkFields given
  if Value.anyFieldHoldsView given then throw (.notCopyable (Value.formName (.view [])))
  return .object (given.map fun (name, v) => (name, fieldJson v))

end RecordType

end ReplayLedger
