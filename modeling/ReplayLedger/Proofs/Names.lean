import ReplayLedger.Proofs.Consistency

/-!
# Names in place of ids

Ids are given out by the store as a whole, so which ids the rows of an environment have depends on
what has happened in all the others.  Names do not: a block is named by its environment and height, a
contract by its environment and identifier, a variable and a map by the contract that declares it and
by their own name, and an execution by its transaction.

In a consistent store a name stands for one id (`Consistent.place?_inj` and its like), and a store
that grows keeps the names of its rows (`Store.Extends`).
-/

namespace ReplayLedger

/-- A map as the chain names it, the same in every environment. -/
structure MapName where
  qualifiedId : String
  name : String
  deriving DecidableEq, Repr, Inhabited

/-- The variable that is written. -/
def VariableWrite.slot (write : VariableWrite) : VariableSlot := ⟨write.contract, write.key⟩

/-- The key of a map that is written. -/
def MapWrite.slot (write : MapWrite) : MapSlot := ⟨write.contract, write.name, write.keyHash⟩

/-- The map that is written. -/
def MapWrite.map (write : MapWrite) : MapName := ⟨write.contract, write.name⟩

namespace Store

/-! ## Names for ids -/

/-- The environment and the height of the block with an id. -/
def place? (s : Store) (id : Int) : Option (Int × Int) :=
  (s.block? id).map fun row => (row.environmentId, row.height)

/-- The environment and the identifier of the contract with an id. -/
def contractName? (s : Store) (id : Int) : Option (Int × String) :=
  (s.contract? id).map fun row => (row.environmentId, row.qualifiedId)

/-- The environment and the slot of the variable with an id. -/
def variableName? (s : Store) (id : Int) : Option (Int × VariableSlot) :=
  (s.variableOwner? id).map fun (declared, owner) =>
    (owner.environmentId, ⟨owner.qualifiedId, declared.key⟩)

/-- The environment and the name of the map with an id. -/
def mapName? (s : Store) (id : Int) : Option (Int × MapName) :=
  (s.mapOwner? id).map fun (declared, owner) =>
    (owner.environmentId, ⟨owner.qualifiedId, declared.name⟩)

/-- The transaction of the execution with an id. -/
def transaction? (s : Store) (id : Int) : Option Bytes :=
  (s.execution? id).map (·.transactionId)

variable {s s' : Store} {id id' environment : Int}

/-- The place of a block is read off the block with the id. -/
lemma place?_eq_some {height : Int} : s.place? id = some (environment, height) ↔
    ∃ row, s.block? id = some row ∧ row.environmentId = environment ∧ row.height = height := by
  simp [place?]

/-- The name of a contract is read off the contract with the id. -/
lemma contractName?_eq_some {qualifiedId : String} :
    s.contractName? id = some (environment, qualifiedId) ↔ ∃ row, s.contract? id = some row ∧
      row.environmentId = environment ∧ row.qualifiedId = qualifiedId := by
  simp [contractName?]

/-- The name of a variable is made of the name of its contract and its own key. -/
lemma variableName?_eq_some {slot : VariableSlot} :
    s.variableName? id = some (environment, slot) ↔ ∃ row, s.variableWithId? id = some row ∧
      s.contractName? row.contractId = some (environment, slot.qualifiedId) ∧ row.key = slot.key := by
  cases slot
  simp only [variableName?, Option.map_eq_some_iff, Prod.exists, variableOwner?_eq_some,
    contractName?_eq_some, Prod.mk.injEq, VariableSlot.mk.injEq]
  grind

/-- The name of a map is made of the name of its contract and its own name. -/
lemma mapName?_eq_some {name : MapName} :
    s.mapName? id = some (environment, name) ↔ ∃ row, s.map? id = some row ∧
      s.contractName? row.contractId = some (environment, name.qualifiedId) ∧ row.name = name.name := by
  cases name
  simp only [mapName?, Option.map_eq_some_iff, Prod.exists, mapOwner?_eq_some,
    contractName?_eq_some, Prod.mk.injEq, MapName.mk.injEq]
  grind

/-- The transaction of an execution is read off the execution with the id. -/
lemma transaction?_eq_some {transactionId : Bytes} : s.transaction? id = some transactionId ↔
    ∃ row, s.execution? id = some row ∧ row.transactionId = transactionId := by
  simp [transaction?]

namespace Consistent

/-- A block in the table is found under its id, with its place. -/
lemma place?_of_mem (hs : s.Consistent) {row : Block} (hrow : row ∈ s.blocks) :
    s.place? row.id = some (row.environmentId, row.height) :=
  place?_eq_some.2 ⟨row, hs.block?_eq_some.2 ⟨hrow, rfl⟩, rfl, rfl⟩

/-- A contract in the table is found under its id, with its name. -/
lemma contractName?_of_mem (hs : s.Consistent) {row : Contract} (hrow : row ∈ s.contracts) :
    s.contractName? row.id = some (row.environmentId, row.qualifiedId) :=
  contractName?_eq_some.2 ⟨row, hs.contract?_eq_some.2 ⟨hrow, rfl⟩, rfl, rfl⟩

/-- A variable in the table is found under its id, and its name begins with that of the contract
that declares it. -/
lemma variableName?_of_mem (hs : s.Consistent) {row : Variable} (hrow : row ∈ s.vars)
    {owner : Contract} (howner : owner ∈ s.contracts) (hid : owner.id = row.contractId) :
    s.variableName? row.id = some (owner.environmentId, ⟨owner.qualifiedId, row.key⟩) :=
  variableName?_eq_some.2
    ⟨row, hs.variableWithId?_eq_some.2 ⟨hrow, rfl⟩, hid ▸ hs.contractName?_of_mem howner, rfl⟩

/-- A map in the table is found under its id, and its name begins with that of the contract that
declares it. -/
lemma mapName?_of_mem (hs : s.Consistent) {row : ContractMap} (hrow : row ∈ s.maps)
    {owner : Contract} (howner : owner ∈ s.contracts) (hid : owner.id = row.contractId) :
    s.mapName? row.id = some (owner.environmentId, ⟨owner.qualifiedId, row.name⟩) :=
  mapName?_eq_some.2
    ⟨row, hs.map?_eq_some.2 ⟨hrow, rfl⟩, hid ▸ hs.contractName?_of_mem howner, rfl⟩

/-- An execution in the table is found under its id, with its transaction. -/
lemma transaction?_of_mem (hs : s.Consistent) {row : Execution} (hrow : row ∈ s.executions) :
    s.transaction? row.id = some row.transactionId :=
  transaction?_eq_some.2 ⟨row, hs.execution?_eq_some.2 ⟨hrow, rfl⟩, rfl⟩

end Consistent

/-- In a consistent store no two blocks have one place. -/
lemma Consistent.place?_inj (hs : s.Consistent) {place : Int × Int} (h : s.place? id = some place) :
    s.place? id' = some place ↔ id' = id := by
  obtain ⟨environment, height⟩ := place
  obtain ⟨row, hrow, hplace⟩ := place?_eq_some.1 h
  refine ⟨fun h' => ?_, fun h' => h' ▸ h⟩
  obtain ⟨row', hrow', hplace'⟩ := place?_eq_some.1 h'
  obtain ⟨hmem, rfl⟩ := mem_of_block? hrow
  obtain ⟨hmem', rfl⟩ := mem_of_block? hrow'
  have hsame : row' = row :=
    List.inj_on_of_nodup_map hs.keys.blockHeights hmem' hmem (by simp [hplace, hplace'])
  rw [hsame]

/-- In a consistent store no two contracts have one name. -/
lemma Consistent.contractName?_inj (hs : s.Consistent) {name : Int × String}
    (h : s.contractName? id = some name) : s.contractName? id' = some name ↔ id' = id := by
  obtain ⟨environment, qualifiedId⟩ := name
  obtain ⟨row, hrow, hname⟩ := contractName?_eq_some.1 h
  refine ⟨fun h' => ?_, fun h' => h' ▸ h⟩
  obtain ⟨row', hrow', hname'⟩ := contractName?_eq_some.1 h'
  obtain ⟨hmem, rfl⟩ := mem_of_contract? hrow
  obtain ⟨hmem', rfl⟩ := mem_of_contract? hrow'
  have hsame : row' = row :=
    List.inj_on_of_nodup_map hs.keys.contracts hmem' hmem (by simp [hname, hname'])
  rw [hsame]

/-- In a consistent store no two variables have one name. -/
lemma Consistent.variableName?_inj (hs : s.Consistent) {name : Int × VariableSlot}
    (h : s.variableName? id = some name) : s.variableName? id' = some name ↔ id' = id := by
  obtain ⟨environment, slot⟩ := name
  obtain ⟨row, hrow, howner, hkey⟩ := variableName?_eq_some.1 h
  refine ⟨fun h' => ?_, fun h' => h' ▸ h⟩
  obtain ⟨row', hrow', howner', hkey'⟩ := variableName?_eq_some.1 h'
  obtain ⟨hmem, rfl⟩ := mem_of_variableWithId? hrow
  obtain ⟨hmem', rfl⟩ := mem_of_variableWithId? hrow'
  have hcontract : row'.contractId = row.contractId := (hs.contractName?_inj howner).1 howner'
  have hsame : row' = row :=
    List.inj_on_of_nodup_map hs.keys.vars hmem' hmem (by simp [hcontract, hkey, hkey'])
  rw [hsame]

/-- In a consistent store no two maps have one name. -/
lemma Consistent.mapName?_inj (hs : s.Consistent) {name : Int × MapName}
    (h : s.mapName? id = some name) : s.mapName? id' = some name ↔ id' = id := by
  obtain ⟨environment, name⟩ := name
  obtain ⟨row, hrow, howner, hname⟩ := mapName?_eq_some.1 h
  refine ⟨fun h' => ?_, fun h' => h' ▸ h⟩
  obtain ⟨row', hrow', howner', hname'⟩ := mapName?_eq_some.1 h'
  obtain ⟨hmem, rfl⟩ := mem_of_map? hrow
  obtain ⟨hmem', rfl⟩ := mem_of_map? hrow'
  have hcontract : row'.contractId = row.contractId := (hs.contractName?_inj howner).1 howner'
  have hsame : row' = row :=
    List.inj_on_of_nodup_map hs.keys.maps hmem' hmem (by simp [hcontract, hname, hname'])
  rw [hsame]

/-! ## Growing stores -/

/-- The rows that other rows refer to are found again, as they were. -/
structure Extends (s s' : Store) : Prop where
  block {id : Int} {row : Block} : s.block? id = some row → s'.block? id = some row
  contract {id : Int} {row : Contract} : s.contract? id = some row → s'.contract? id = some row
  execution {id : Int} {row : Execution} : s.execution? id = some row → s'.execution? id = some row
  variableRow {id : Int} {row : Variable} :
    s.variableWithId? id = some row → s'.variableWithId? id = some row
  map {id : Int} {row : ContractMap} : s.map? id = some row → s'.map? id = some row

namespace Extends

lemma refl (s : Store) : Extends s s := ⟨id, id, id, id, id⟩

/-- Growing twice is growing. -/
lemma trans {s₁ s₂ s₃ : Store} (h : Extends s₁ s₂) (h' : Extends s₂ s₃) : Extends s₁ s₃ :=
  ⟨fun hrow => h'.block (h.block hrow), fun hrow => h'.contract (h.contract hrow),
    fun hrow => h'.execution (h.execution hrow), fun hrow => h'.variableRow (h.variableRow hrow),
    fun hrow => h'.map (h.map hrow)⟩

/-- A store that grows keeps the places of its blocks. -/
lemma place? (h : Extends s s') {place : Int × Int} (hplace : s.place? id = some place) :
    s'.place? id = some place := by
  obtain ⟨row, hrow, rfl⟩ := Option.map_eq_some_iff.1 hplace
  exact Option.map_eq_some_iff.2 ⟨row, h.block hrow, rfl⟩

/-- A store that grows keeps the names of its contracts. -/
lemma contractName? (h : Extends s s') {name : Int × String}
    (hname : s.contractName? id = some name) : s'.contractName? id = some name := by
  obtain ⟨row, hrow, rfl⟩ := Option.map_eq_some_iff.1 hname
  exact Option.map_eq_some_iff.2 ⟨row, h.contract hrow, rfl⟩

/-- A store that grows keeps the names of its variables, since it keeps their contracts too. -/
lemma variableName? (h : Extends s s') {name : Int × VariableSlot}
    (hname : s.variableName? id = some name) : s'.variableName? id = some name := by
  obtain ⟨row, hrow, howner, hkey⟩ := variableName?_eq_some.1 hname
  exact variableName?_eq_some.2 ⟨row, h.variableRow hrow, h.contractName? howner, hkey⟩

/-- A store that grows keeps the names of its maps, since it keeps their contracts too. -/
lemma mapName? (h : Extends s s') {name : Int × MapName} (hname : s.mapName? id = some name) :
    s'.mapName? id = some name := by
  obtain ⟨row, hrow, howner, hname⟩ := mapName?_eq_some.1 hname
  exact mapName?_eq_some.2 ⟨row, h.map hrow, h.contractName? howner, hname⟩

/-- A store that grows keeps the transactions of its executions. -/
lemma transaction? (h : Extends s s') {transactionId : Bytes}
    (htx : s.transaction? id = some transactionId) : s'.transaction? id = some transactionId := by
  obtain ⟨row, hrow, rfl⟩ := Option.map_eq_some_iff.1 htx
  exact Option.map_eq_some_iff.2 ⟨row, h.execution hrow, rfl⟩

end Extends

/-- A store without an environment is extended by the store with it. -/
lemma Consistent.extends_drop (hs : s.Consistent) : Extends (s.deleteOwned environment).2 s := by
  rw [deleteOwned_eq]
  constructor
  · intro id row h
    obtain ⟨hrow, hid⟩ := mem_of_block? h
    exact hs.block?_eq_some.2 ⟨(List.mem_filter.1 hrow).1, hid⟩
  · intro id row h
    obtain ⟨hrow, hid⟩ := mem_of_contract? h
    exact hs.contract?_eq_some.2 ⟨(List.mem_filter.1 hrow).1, hid⟩
  · intro id row h
    obtain ⟨hrow, hid⟩ := mem_of_execution? h
    exact hs.execution?_eq_some.2 ⟨(List.mem_filter.1 hrow).1, hid⟩
  · intro id row h
    obtain ⟨hrow, hid⟩ := mem_of_variableWithId? h
    exact hs.variableWithId?_eq_some.2 ⟨(List.mem_filter.1 hrow).1, hid⟩
  · intro id row h
    obtain ⟨hrow, hid⟩ := mem_of_map? h
    exact hs.map?_eq_some.2 ⟨(List.mem_filter.1 hrow).1, hid⟩

end Store

end ReplayLedger
