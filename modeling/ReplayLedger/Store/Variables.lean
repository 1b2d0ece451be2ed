import ReplayLedger.Association
import ReplayLedger.Order
import ReplayLedger.Store

/-!
# Contract variables

A variable has a history: every write is a row of its own, with the block and the execution it comes
from.  What a variable held at a height is the last write at the greatest height not above it.
-/

namespace ReplayLedger

/-- A variable as the chain names it, the same in every environment. -/
structure VariableSlot where
  qualifiedId : String
  key : String
  deriving DecidableEq, Repr, Inhabited

/-- The order of variables: by contract, then by key. -/
def VariableSlot.lt (a b : VariableSlot) : Bool :=
  thenLt textLt textLt (a.qualifiedId, a.key) (b.qualifiedId, b.key)

/-- The order of instances in a history: by height, then by id. -/
def VariableInstance.below (a b : VariableInstance) : Bool :=
  thenLt intLt intLt (a.height, a.id) (b.height, b.id)

namespace Store

/-- The contract that declares a variable or map. -/
def referencedContract (s : Store) (id : Int) : Except Error Contract := do
  storableId (s.contracts.map (·.id)) id
  require (s.contract? id) (.unknownContract id)

/-- The block that a write refers to, which must belong to an environment. -/
def ownedBlock (s : Store) (block environment : Int) : Except Error Block := do
  storableId (s.blocks.map (·.id)) block
  require ((s.block? block).filter fun row => row.environmentId = environment)
    (.blockElsewhere block environment)

/-- Declares a variable of a contract. -/
def declareVariable (s : Store) (contract : Int) (key : Value) : Except Error (Int × Store) := do
  let key ← Argument.name "key" key
  let _ ← s.referencedContract contract
  let key ← key.encoded
  ensure (s.variableNamed? contract key = none) (.variableDeclared contract key)
  let id := nextId (s.vars.map (·.id))
  let row : Variable := ⟨id, contract, key⟩
  return (id, { s with vars := s.vars ++ [row] })

/-- The id of the variable that a contract declares under a key, if there is one. -/
def findVariable (s : Store) (contract : Int) (key : String) : Except Error (Option Int) := do
  storableId (s.contracts.map (·.id)) contract
  return (s.variableNamed? contract key).map (·.id)

/-- The variable with an id. -/
def getVariable (s : Store) (id : Int) : Except Error Variable := do
  storableId (s.vars.map (·.id)) id
  require (s.variableWithId? id) (.noVariable id)

/-- The variable with an id and the contract that declares it. -/
def variableOwner? (s : Store) (id : Int) : Option (Variable × Contract) := do
  let declared ← s.variableWithId? id
  let owner ← s.contract? declared.contractId
  return (declared, owner)

/-- Appends a value to the history of a variable.  The execution must be one of the variable's
contract at the same block, and the block must belong to the contract's environment. -/
def recordVariableInstance (s : Store) (varId block execution : Int) (value : Value) :
    Except Error (Int × Store) := do
  let value ← Argument.bytes "value" value
  storableId (s.vars.map (·.id)) varId
  let (declared, owner) ← require (s.variableOwner? varId) (.unknownVariable varId)
  let home ← s.ownedBlock block owner.environmentId
  storableId (s.executions.map (·.id)) execution
  let writer ← require ((s.execution? execution).filter fun row => row.blockId = block)
    (.executionElsewhere execution block)
  ensure (writer.contractId = declared.contractId)
    (.executionOfOther execution writer.contractId varId)
  let id := nextId (s.instances.map (·.id))
  let row : VariableInstance := ⟨id, varId, block, home.height, execution, value⟩
  return (id, { s with instances := s.instances ++ [row] })

/-- What a variable held at a height. -/
def latestVariableValue (s : Store) (varId : Int) (asOf : Value) :
    Except Error (Option VariableInstance) := do
  let height ← Argument.height "as_of_height" asOf
  let _ ← s.getVariable varId
  storable height
  return greatest? VariableInstance.below
    (s.instances.filter fun row => row.variableId = varId ∧ row.height ≤ height)

/-- The variable slot that an instance was written to. -/
def slotOfInstance? (s : Store) (row : VariableInstance) : Option VariableSlot := do
  let (declared, owner) ← s.variableOwner? row.variableId
  return ⟨owner.qualifiedId, declared.key⟩

/-- The final value of every variable that was written at a block.  The writes are taken by their ids,
as the table has them (`Consistent.listed_inOrderOfIds`). -/
def variableTable (s : Store) (block : Int) : List (VariableSlot × Bytes) :=
  Association.ofWrites <| (s.instances.filter fun row => row.blockId = block).filterMap fun row =>
    (s.slotOfInstance? row).map (·, row.value)

/-- The final value of every variable that was written at a block, in the order of variables. -/
def variableWritesAt (s : Store) (block : Int) : Except Error (List (VariableSlot × Bytes)) := do
  storableId (s.blocks.map (·.id)) block
  return (s.variableTable block).mergeSort fun a b => !VariableSlot.lt b.1 a.1

end Store

end ReplayLedger
