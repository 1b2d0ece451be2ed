import ReplayLedger.Store.Entries

/-!
# Contracts and the log of their executions
-/

namespace ReplayLedger.Store

/-- Records the deployment of a contract.  Its identifier is unique in the environment of the
block. -/
def registerContract (s : Store) (block : Int) (qualifiedId source : Value) :
    Except Error (Int × Store) := do
  let qualifiedId ← Argument.name "qualified_id" qualifiedId
  let source ← Argument.bytes "source" source
  let owner ← s.referencedBlock block
  let qualifiedId ← qualifiedId.encoded
  ensure (s.contractNamed? owner.environmentId qualifiedId = none)
    (.contractDeployed qualifiedId owner.environmentId)
  let id := nextId (s.contracts.map (·.id))
  let row : Contract := ⟨id, owner.environmentId, block, qualifiedId, source⟩
  return (id, { s with contracts := s.contracts ++ [row] })

/-- Logs that a transaction invoked a contract at a block, which it may do once.  Block and contract
must belong to the same environment. -/
def recordExecution (s : Store) (block contract : Int) (transactionId : Value) :
    Except Error (Int × Store) := do
  let transactionId ← Argument.nonEmptyBytes "tx_id" transactionId
  let owner ← s.referencedBlock block
  storableId (s.contracts.map (·.id)) contract
  let _ ← require
    ((s.contract? contract).filter fun row => row.environmentId = owner.environmentId)
    (.contractElsewhere contract owner.environmentId)
  ensure (s.executionOf? block contract transactionId = none)
    (.executionLogged transactionId contract block)
  let id := nextId (s.executions.map (·.id))
  let row : Execution := ⟨id, block, contract, transactionId⟩
  return (id, { s with executions := s.executions ++ [row] })

/-- The contract that an environment knows under an identifier. -/
def getContract (s : Store) (qualifiedId : String) (environment : Int) : Except Error Contract := do
  storableId (s.environments.map (·.id)) environment
  require (s.contractNamed? environment qualifiedId) (.noContractNamed qualifiedId environment)

/-- The contract with an id. -/
def getContractById (s : Store) (id : Int) : Except Error Contract := do
  storableId (s.contracts.map (·.id)) id
  require (s.contract? id) (.noContract id)

/-- The contracts of an environment, by id: the table is kept in this order
(`Consistent.listed_inOrderOfIds`). -/
def listContracts (s : Store) (environment : Int) : Except Error (List Contract) := do
  storableId (s.environments.map (·.id)) environment
  return s.contracts.filter fun row => row.environmentId = environment

/-- The executions at a block, in the order in which they were logged, which is that of their ids
(`Consistent.listed_inOrderOfIds`). -/
def listExecutions (s : Store) (block : Int) : Except Error (List Execution) := do
  let _ ← s.getBlockById block
  return s.executions.filter fun row => row.blockId = block

end ReplayLedger.Store
