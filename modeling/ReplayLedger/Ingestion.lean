import ReplayLedger.Payload
import ReplayLedger.Store.Contracts
import ReplayLedger.Store.Maps

/-!
# Taking in a whole block

A payload is applied part by part: the block, its trie leaves, the contracts it deploys, the
invocations, the writes to variables and the writes to maps.  Payloads name contracts and
invocations; what has been named so far, and the ids behind the names, is carried along.  If a part
is refused the whole payload is, and since an error carries no store, nothing of it is kept.
-/

namespace ReplayLedger

/-- A payload on its way into the store. -/
structure Ingestion where
  store : Store
  environment : Environment
  /-- The block of the payload. -/
  block : Int
  /-- The contracts named so far. -/
  contracts : List (String × Int) := []
  /-- The invocations logged so far, by contract and transaction. -/
  executions : List ((String × Bytes) × Int) := []
  deriving DecidableEq, Repr, Inhabited

namespace Ingestion

/-- Writes a trie leaf. -/
def writeEntry (t : Ingestion) (write : EntryWrite) : Except Error Ingestion := do
  let (_, store) ← t.store.putEntry t.block (.bytes write.keyHash) (.bytes write.value)
  return { t with store }

/-- Deploys a contract. -/
def deploy (t : Ingestion) (deployment : Deployment) : Except Error Ingestion := do
  let (id, store) ← t.store.registerContract t.block (.text deployment.qualifiedId)
    (.bytes deployment.source)
  return { t with store, contracts := Association.put deployment.qualifiedId id t.contracts }

/-- The id of a contract: one that was named before, or one that the environment knows. -/
def contract (t : Ingestion) (qualifiedId : String) : Except Error (Int × Ingestion) :=
  match Association.get? qualifiedId t.contracts with
  | some id => .ok (id, t)
  | none => do
    let row ← require (t.store.contractNamed? t.environment.id qualifiedId)
      (.contractNotDeployed qualifiedId t.environment.name)
    return (row.id, { t with contracts := Association.put qualifiedId row.id t.contracts })

/-- Naming a contract changes nothing in the store. -/
theorem store_of_contract {t t' : Ingestion} {qualifiedId : String} {id : Int}
    (h : t.contract qualifiedId = .ok (id, t')) : t'.store = t.store := by
  unfold contract at h
  split at h
  · obtain ⟨-, rfl⟩ := Prod.mk.inj (Except.ok.inj h)
    rfl
  · obtain ⟨row, -, h⟩ := bind_eq_ok.1 h
    obtain ⟨-, rfl⟩ := Prod.mk.inj (Except.ok.inj h)
    rfl

/-- Logs an invocation. -/
def invoke (t : Ingestion) (invocation : Invocation) : Except Error Ingestion := do
  let (contract, t) ← t.contract invocation.contract
  let (id, store) ← t.store.recordExecution t.block contract (.bytes invocation.transactionId)
  let executions :=
    Association.put (invocation.contract, invocation.transactionId) id t.executions
  return { t with store, executions }

/-- The variable of a contract with a key, declared if it is not yet. -/
def variableId (t : Ingestion) (contract : Int) (key : String) : Except Error (Int × Store) := do
  match ← t.store.findVariable contract key with
  | some id => return (id, t.store)
  | none => t.store.declareVariable contract (.text key)

/-- The invocation that writes a variable, which must be one of the payload. -/
def writer (t : Ingestion) (write : VariableWrite) : Except Error Int :=
  require (Association.get? (write.contract, write.transactionId) t.executions)
    (.writerNotExecuted write.key write.contract write.transactionId)

/-- Writes a variable. -/
def writeVariable (t : Ingestion) (write : VariableWrite) : Except Error Ingestion := do
  let execution ← t.writer write
  let (contract, t) ← t.contract write.contract
  let (id, store) ← t.variableId contract write.key
  let (_, store) ← store.recordVariableInstance id t.block execution (.bytes write.value)
  return { t with store }

/-- The map of a contract with a name, declared if it is not yet. -/
def mapId (t : Ingestion) (contract : Int) (name : String) : Except Error (Int × Store) := do
  match ← t.store.findMap contract name with
  | some id => return (id, t.store)
  | none => t.store.declareMap contract (.text name)

/-- Writes a key of a map. -/
def writeMap (t : Ingestion) (write : MapWrite) : Except Error Ingestion := do
  let (contract, t) ← t.contract write.contract
  let (id, store) ← t.mapId contract write.name
  let (_, store) ← store.putMapEntry id t.block (.bytes write.keyHash) (.bytes write.value)
  return { t with store }

end Ingestion

namespace Store

/-- Records a block and everything that was observed while producing it, or nothing at all. -/
def applyPayload (s : Store) (payload : BlockPayload) : Except Error (Int × Store) := do
  let environment ← s.resolve payload.environment
  let (block, store) ← s.recordBlock environment.id (.int payload.height)
    (.bytes payload.indexHash) (.bytes payload.trieRoot)
  let t : Ingestion := { store, environment, block }
  let t ← payload.entries.foldlM Ingestion.writeEntry t
  let t ← payload.contracts.foldlM Ingestion.deploy t
  let t ← payload.executions.foldlM Ingestion.invoke t
  let t ← payload.varWrites.foldlM Ingestion.writeVariable t
  let t ← payload.mapWrites.foldlM Ingestion.writeMap t
  return (block, t.store)

/-- Checks a raw payload and applies it. -/
def applyBlock (s : Store) (payload : Value) : Except Error (Int × Store) := do
  s.applyPayload (← BlockPayload.ofValue payload)

end Store

end ReplayLedger
