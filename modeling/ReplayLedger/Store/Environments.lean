import ReplayLedger.Store

/-!
# Environments: create, look up, list and drop

Dropping an environment removes all it owns.  Ownership follows the references: an environment owns
its blocks and its contracts, and with them every row that refers to one of them.
-/

namespace ReplayLedger

/-- A number of rows for each table. -/
structure RowCounts where
  environments : Nat
  blocks : Nat
  entries : Nat
  contracts : Nat
  executions : Nat
  vars : Nat
  instances : Nat
  maps : Nat
  mapEntries : Nat
  deriving DecidableEq, Repr, Inhabited

/-- The number of rows in all tables together. -/
def RowCounts.total (c : RowCounts) : Nat :=
  c.environments + c.blocks + c.entries + c.contracts + c.executions + c.vars + c.instances
    + c.maps + c.mapEntries

namespace Store

/-- Registers a new environment, which has no blocks yet. -/
def createEnvironment (s : Store) (name kind path : Value) : Except Error (Int × Store) := do
  let name ← Argument.name "name" name
  let path ← Argument.name "storage_path" path
  let runtime ← Argument.runtimeKind kind
  let name ← name.encoded
  ensure (s.environmentNamed? name = none) (.nameTaken name)
  let path ← path.encoded
  let id := nextId (s.environments.map (·.id))
  let row : Environment := ⟨id, name, runtime, path, none⟩
  return (id, { s with environments := s.environments ++ [row] })

/-- The environment with an id. -/
def getEnvironment (s : Store) (id : Int) : Except Error Environment := do
  storableId (s.environments.map (·.id)) id
  require (s.environment? id) (.noEnvironment id)

/-- The environment with a name. -/
def getEnvironmentByName (s : Store) (name : String) : Except Error Environment :=
  require (s.environmentNamed? name) (.noEnvironmentNamed name)

/-- The environment that a reference stands for. -/
def resolve (s : Store) : Reference → Except Error Environment
  | .id n => s.getEnvironment n
  | .name name => s.getEnvironmentByName name
  | .illFormed t => .error (.unencodable t)

/-- All environments, by id: the table is kept in this order (`Consistent.listed_inOrderOfIds`). -/
def listEnvironments (s : Store) : List Environment := s.environments

/-- How many rows each table holds. -/
def rowCounts (s : Store) : RowCounts where
  environments := s.environments.length
  blocks := s.blocks.length
  entries := s.entries.length
  contracts := s.contracts.length
  executions := s.executions.length
  vars := s.vars.length
  instances := s.instances.length
  maps := s.maps.length
  mapEntries := s.mapEntries.length

/-- The ids of the blocks of an environment. -/
def blockIdsOf (s : Store) (environment : Int) : List Int :=
  (s.blocks.filter fun row => row.environmentId = environment).map (·.id)

/-- The ids of the contracts of an environment. -/
def contractIdsOf (s : Store) (environment : Int) : List Int :=
  (s.contracts.filter fun row => row.environmentId = environment).map (·.id)

/-- The ids of the variables that contracts of an environment declare. -/
def variableIdsOf (s : Store) (environment : Int) : List Int :=
  (s.vars.filter fun row => row.contractId ∈ s.contractIdsOf environment).map (·.id)

/-- The ids of the maps that contracts of an environment declare. -/
def mapIdsOf (s : Store) (environment : Int) : List Int :=
  (s.maps.filter fun row => row.contractId ∈ s.contractIdsOf environment).map (·.id)

/-- The part of the store that an environment owns. -/
def ownedBy (s : Store) (environment : Int) : Store where
  environments := s.environments.filter fun row => row.id = environment
  blocks := s.blocks.filter fun row => row.environmentId = environment
  entries := s.entries.filter fun row => row.blockId ∈ s.blockIdsOf environment
  contracts := s.contracts.filter fun row => row.environmentId = environment
  executions := s.executions.filter fun row => row.blockId ∈ s.blockIdsOf environment
  vars := s.vars.filter fun row => row.contractId ∈ s.contractIdsOf environment
  instances := s.instances.filter fun row =>
    row.variableId ∈ s.variableIdsOf environment ∨ row.blockId ∈ s.blockIdsOf environment
  maps := s.maps.filter fun row => row.contractId ∈ s.contractIdsOf environment
  mapEntries := s.mapEntries.filter fun row =>
    row.mapId ∈ s.mapIdsOf environment ∨ row.blockId ∈ s.blockIdsOf environment

/-- Removes the rows of a class from a table, and tells how many there were. -/
def remove {α : Type} (p : α → Bool) (rows : List α) : Nat × List α :=
  ((rows.filter p).length, rows.filter fun row => !p row)

/-- Removes what an environment owns, table by table.  Rows go before the rows they refer to, so
each table is searched while the references of its rows can still be followed. -/
def deleteOwned (s : Store) (environment : Int) : RowCounts × Store :=
  let (instances, rest) := remove (fun row : VariableInstance =>
    row.variableId ∈ s.variableIdsOf environment ∨ row.blockId ∈ s.blockIdsOf environment) s.instances
  let s := { s with instances := rest }
  let (mapEntries, rest) := remove (fun row : MapEntry =>
    row.mapId ∈ s.mapIdsOf environment ∨ row.blockId ∈ s.blockIdsOf environment) s.mapEntries
  let s := { s with mapEntries := rest }
  let (vars, rest) := remove (fun row : Variable =>
    row.contractId ∈ s.contractIdsOf environment) s.vars
  let s := { s with vars := rest }
  let (maps, rest) := remove (fun row : ContractMap =>
    row.contractId ∈ s.contractIdsOf environment) s.maps
  let s := { s with maps := rest }
  let (executions, rest) := remove (fun row : Execution =>
    row.blockId ∈ s.blockIdsOf environment) s.executions
  let s := { s with executions := rest }
  let (contracts, rest) := remove (fun row : Contract => row.environmentId = environment) s.contracts
  let s := { s with contracts := rest }
  let (entries, rest) := remove (fun row : StateEntry =>
    row.blockId ∈ s.blockIdsOf environment) s.entries
  let s := { s with entries := rest }
  let (blocks, rest) := remove (fun row : Block => row.environmentId = environment) s.blocks
  let s := { s with blocks := rest }
  let (environments, rest) := remove (fun row : Environment => row.id = environment) s.environments
  let s := { s with environments := rest }
  (⟨environments, blocks, entries, contracts, executions, vars, instances, maps, mapEntries⟩, s)

/-- Removes an environment with all it owns, and tells how many rows went. -/
def dropEnvironment (s : Store) (id : Int) : Except Error (RowCounts × Store) := do
  storableId (s.environments.map (·.id)) id
  let _ ← require (s.environment? id) (.noEnvironment id)
  return s.deleteOwned id

end Store

end ReplayLedger
