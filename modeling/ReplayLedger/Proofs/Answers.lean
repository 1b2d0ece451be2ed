import ReplayLedger.Proofs.Reading

/-!
# What reads answer

A read first looks whether what it asks about exists.  Where it does, these are the answers.  Contracts
are asked for by name, and what is found under the name of a variable or map is in the history.
-/

namespace ReplayLedger.Store

variable {s : Store} {environment block contract : Int}

/-! ## Arguments of the right form -/

/-- Of a byte string only the length is left to check. -/
lemma nonEmptyBytes_bytes {field : String} {data : Bytes} :
    Argument.nonEmptyBytes field (.bytes data) =
      (ensure (data ≠ []) (.emptyBytes field) >>= fun _ => .ok data) := by
  rw [Argument.nonEmptyBytes, Argument.bytes]
  rfl

/-- A byte string is taken as it is. -/
lemma bytes_bytes {field : String} {data : Bytes} : Argument.bytes field (.bytes data) = .ok data :=
  rfl

/-- Of a text only the characters are left to check. -/
lemma name_text {field text : String} :
    Argument.name field (.text text) =
      (ensure (¬ Text.IsBlankText text) (.blankName field) >>= fun _ => .ok (.text text)) := by
  rw [Argument.name]
  rfl

/-- A name that is well formed reaches the database as it is. -/
lemma encoded_text {text : String} : (RawName.text text).encoded = .ok text :=
  encoded_eq_ok.2 rfl

/-- Of an integer only the sign is left to check. -/
lemma height_int {field : String} {n : Int} :
    Argument.height field (.int n) =
      (ensure (0 ≤ n) (.negativeHeight field n) >>= fun _ => .ok n) := rfl

/-! ## Answers about rows that exist -/

section Rows

variable {place : Int × Int} (hplace : s.place? block = some place)
include hplace

/-- A block that has a place is answered by its id. -/
lemma getBlockById_of_place? : ∃ row, s.getBlockById block = .ok row := by
  obtain ⟨row, hrow, -⟩ := place?_eq_some.1 hplace
  refine ⟨row, ?_⟩
  rw [getBlockById, storableId_of_find? hrow, hrow]
  rfl

/-- The entries of a block that has a place are listed, in the order of their keys. -/
lemma listEntries_eq : s.listEntries block =
    .ok ((s.entriesOf block).mergeSort fun a b => !Bytes.lt b.1 a.1) := by
  obtain ⟨row, hrow⟩ := getBlockById_of_place? hplace
  rw [listEntries, hrow]
  rfl

/-- The executions in a block that has a place are listed, as they stand in the table. -/
lemma listExecutions_eq : s.listExecutions block =
    .ok (s.executions.filter fun row => row.blockId = block) := by
  obtain ⟨row, hrow⟩ := getBlockById_of_place? hplace
  rw [listExecutions, hrow]
  rfl

/-- The writes to variables in a block that has a place are listed, in the order of their slots. -/
lemma variableWritesAt_eq : s.variableWritesAt block =
    .ok ((s.variableTable block).mergeSort fun a b => !VariableSlot.lt b.1 a.1) := by
  obtain ⟨row, hrow, -⟩ := place?_eq_some.1 hplace
  rw [variableWritesAt, storableId_of_find? hrow]
  rfl

/-- The writes to maps in a block that has a place are listed, in the order of their slots. -/
lemma mapWritesAt_eq : s.mapWritesAt block =
    .ok ((s.mapTable block).mergeSort fun a b => !MapSlot.lt b.1 a.1) := by
  obtain ⟨row, hrow, -⟩ := place?_eq_some.1 hplace
  rw [mapWritesAt, storableId_of_find? hrow]
  rfl

end Rows

/-- The contract that an existing environment knows under an identifier. -/
lemma getContract_eq {owner : Environment} (owned : s.environment? environment = some owner)
    (qualifiedId : String) : s.getContract qualifiedId environment =
      require (s.contractNamed? environment qualifiedId) (.noContractNamed qualifiedId environment) := by
  rw [getContract, storableId_of_find? owned]
  rfl

/-- Under a contract that has a name, a variable is looked up and the answer is its id, if there is
one. -/
lemma findVariable_eq {name : Int × String} (h : s.contractName? contract = some name)
    (key : String) :
    s.findVariable contract key = .ok ((s.variableNamed? contract key).map (·.id)) := by
  obtain ⟨row, hrow, -⟩ := contractName?_eq_some.1 h
  rw [findVariable, storableId_of_find? hrow]
  rfl

/-- Under a contract that has a name, a map is looked up and the answer is its id, if there is one.
-/
lemma findMap_eq {owner : Int × String} (h : s.contractName? contract = some owner)
    (name : String) :
    s.findMap contract name = .ok ((s.mapNamed? contract name).map (·.id)) := by
  obtain ⟨row, hrow, -⟩ := contractName?_eq_some.1 h
  rw [findMap, storableId_of_find? hrow]
  rfl

/-- A variable that has a name exists, so only the height can be refused. -/
lemma latestVariableValue_eq {id : Int} {name : Int × VariableSlot}
    (h : s.variableName? id = some name) (asOf : Value) :
    s.latestVariableValue id asOf = do
      let height ← Argument.height "as_of_height" asOf
      storable height
      return greatest? VariableInstance.below
        (s.instances.filter fun row => row.variableId = id ∧ row.height ≤ height) := by
  obtain ⟨row, hrow, -⟩ := variableName?_eq_some.1 h
  have hfound : s.getVariable id = .ok row := by
    rw [getVariable, storableId_of_find? hrow, hrow]
    rfl
  rw [latestVariableValue, hfound]
  rfl

/-- A variable is read at a height that the database can hold. -/
lemma latestVariableValue_int {id height : Int} {name : Int × VariableSlot}
    (h : s.variableName? id = some name) (hheight : 0 ≤ height) (hstorable : Storable height) :
    s.latestVariableValue id (.int height) = .ok (greatest? VariableInstance.below
      (s.instances.filter fun row => row.variableId = id ∧ row.height ≤ height)) := by
  have hheld : storable height = .ok () := storable_eq_ok.2 hstorable
  rw [latestVariableValue_eq h, height_int, ensure, if_pos hheight]
  simp only [ok_bind, hheld]
  rfl

/-- A map that has a name exists, so only the key and the height can be refused. -/
lemma latestMapEntry_eq {id : Int} {name : Int × MapName} (h : s.mapName? id = some name)
    (keyHash asOf : Value) :
    s.latestMapEntry id keyHash asOf = do
      let keyHash ← Argument.bytes "key_hash" keyHash
      let height ← Argument.height "as_of_height" asOf
      storable height
      return greatest? MapEntry.below (s.mapEntries.filter fun row =>
        row.mapId = id ∧ row.keyHash = keyHash ∧ row.height ≤ height) := by
  obtain ⟨row, hrow, -⟩ := mapName?_eq_some.1 h
  have hfound : s.getMap id = .ok row := by
    rw [getMap, storableId_of_find? hrow, hrow]
    rfl
  rw [latestMapEntry, hfound]
  rfl

/-- A key of a map is read at a height that the database can hold. -/
lemma latestMapEntry_int {id height : Int} {name : Int × MapName} (h : s.mapName? id = some name)
    (keyHash : Bytes) (hheight : 0 ≤ height) (hstorable : Storable height) :
    s.latestMapEntry id (.bytes keyHash) (.int height) = .ok (greatest? MapEntry.below
      (s.mapEntries.filter fun row =>
        row.mapId = id ∧ row.keyHash = keyHash ∧ row.height ≤ height)) := by
  have hheld : storable height = .ok () := storable_eq_ok.2 hstorable
  rw [latestMapEntry_eq h, bytes_bytes, ok_bind, height_int, ensure, if_pos hheight]
  simp only [ok_bind, hheld]
  rfl

/-! ## Environments, contracts, variables and maps by name -/

namespace Consistent

/-- An environment that a reference stands for is found by its id. -/
lemma environment?_of_resolve (hs : s.Consistent) {ref : Reference} {owner : Environment}
    (h : s.resolve ref = .ok owner) : s.environment? owner.id = some owner := by
  apply hs.environment?_eq_some.2
  cases ref with
  | id n =>
    simp only [resolve, getEnvironment, bind_eq_ok, require_eq_ok] at h
    obtain ⟨-, -, hfound⟩ := h
    exact ⟨(mem_of_environment? hfound).1, rfl⟩
  | name name =>
    have hfound : s.environmentNamed? name = some owner := by
      simpa only [resolve, getEnvironmentByName, require_eq_ok] using h
    exact ⟨(hs.environmentNamed?_eq_some.1 hfound).1, rfl⟩
  | illFormed t => cases h

/-- What a reference is resolved to is in the table. -/
lemma mem_of_resolve (hs : s.Consistent) {ref : Reference} {owner : Environment}
    (h : s.resolve ref = .ok owner) : owner ∈ s.environments :=
  (mem_of_environment? (hs.environment?_of_resolve h)).1

/-- A contract that is answered for an identifier and an environment is named by them. -/
lemma contractName?_of_getContract (hs : s.Consistent) {owner : Environment}
    (owned : s.environment? environment = some owner) {qualifiedId : String} {contract : Contract}
    (h : s.getContract qualifiedId environment = .ok contract) :
    s.contractName? contract.id = some (environment, qualifiedId) := by
  rw [getContract_eq owned, require_eq_ok] at h
  obtain ⟨hmem, hname⟩ := hs.contractNamed?_eq_some.1 h
  rw [hs.contractName?_of_mem hmem, hname]

/-- The contract behind a name of an existing environment. -/
lemma getContract_of_contractName? (hs : s.Consistent) {owner : Environment}
    (owned : s.environment? environment = some owner) {qualifiedId : String} {id : Int}
    (h : s.contractName? id = some (environment, qualifiedId)) :
    ∃ contract, s.getContract qualifiedId environment = .ok contract ∧ contract.id = id := by
  obtain ⟨row, hrow, howned, hname⟩ := contractName?_eq_some.1 h
  obtain ⟨hmem, hid⟩ := mem_of_contract? hrow
  refine ⟨row, ?_, hid⟩
  rw [getContract_eq owned, require_eq_ok, hs.contractNamed?_eq_some]
  exact ⟨hmem, by rw [howned, hname]⟩

/-- A variable is found exactly if it is in the history. -/
lemma findVariable_iff_mem (hs : s.Consistent) {owner : Environment}
    (owned : s.environment? environment = some owner) (slot : VariableSlot) :
    (∃ contract id, s.getContract slot.qualifiedId environment = .ok contract ∧
      s.findVariable contract.id slot.key = .ok (some id)) ↔ slot ∈ (s.history environment).vars := by
  constructor
  · rintro ⟨contract, id, hcontract, hfound⟩
    have hname := hs.contractName?_of_getContract owned hcontract
    rw [findVariable_eq hname] at hfound
    by_contra hnone
    rw [(hs.variableNamed?_eq_none hname slot.key).2 hnone] at hfound
    cases hfound
  · intro hmem
    obtain ⟨row, -, hform⟩ := Table.mem_view.1 hmem
    obtain ⟨hname, -⟩ := Table.vars_form?.1 hform
    obtain ⟨contract, hcontract, hid⟩ := hs.getContract_of_contractName? owned hname
    rw [← hid] at hname
    obtain ⟨declared, hdeclared⟩ := Option.ne_none_iff_exists'.1 fun hnone =>
      (hs.variableNamed?_eq_none hname slot.key).1 hnone hmem
    exact ⟨contract, declared.id, hcontract, by rw [findVariable_eq hname, hdeclared]; rfl⟩

/-- A map is found exactly if it is in the history. -/
lemma findMap_iff_mem (hs : s.Consistent) {owner : Environment}
    (owned : s.environment? environment = some owner) (name : MapName) :
    (∃ contract id, s.getContract name.qualifiedId environment = .ok contract ∧
      s.findMap contract.id name.name = .ok (some id)) ↔ name ∈ (s.history environment).maps := by
  constructor
  · rintro ⟨contract, id, hcontract, hfound⟩
    have hname := hs.contractName?_of_getContract owned hcontract
    rw [findMap_eq hname] at hfound
    by_contra hnone
    rw [(hs.mapNamed?_eq_none hname name.name).2 hnone] at hfound
    cases hfound
  · intro hmem
    obtain ⟨row, -, hform⟩ := Table.mem_view.1 hmem
    obtain ⟨hname, -⟩ := Table.maps_form?.1 hform
    obtain ⟨contract, hcontract, hid⟩ := hs.getContract_of_contractName? owned hname
    rw [← hid] at hname
    obtain ⟨declared, hdeclared⟩ := Option.ne_none_iff_exists'.1 fun hnone =>
      (hs.mapNamed?_eq_none hname name.name).1 hnone hmem
    exact ⟨contract, declared.id, hcontract, by rw [findMap_eq hname, hdeclared]; rfl⟩

/-- The variable behind the id that is found under a slot. -/
lemma variableName?_of_findVariable (hs : s.Consistent) {owner : Environment}
    (owned : s.environment? environment = some owner) {slot : VariableSlot} {contract : Contract}
    {id : Int} (hcontract : s.getContract slot.qualifiedId environment = .ok contract)
    (hfound : s.findVariable contract.id slot.key = .ok (some id)) :
    s.variableName? id = some (environment, slot) := by
  have hname := hs.contractName?_of_getContract owned hcontract
  rw [findVariable_eq hname] at hfound
  obtain ⟨declared, hdeclared, rfl⟩ := Option.map_eq_some_iff.1 (Except.ok.inj hfound)
  exact hs.variableName?_of_variableNamed? hname hdeclared

/-- The map behind the id that is found under a name. -/
lemma mapName?_of_findMap (hs : s.Consistent) {owner : Environment}
    (owned : s.environment? environment = some owner) {name : MapName} {contract : Contract}
    {id : Int} (hcontract : s.getContract name.qualifiedId environment = .ok contract)
    (hfound : s.findMap contract.id name.name = .ok (some id)) :
    s.mapName? id = some (environment, name) := by
  have hname := hs.contractName?_of_getContract owned hcontract
  rw [findMap_eq hname] at hfound
  obtain ⟨declared, hdeclared, rfl⟩ := Option.map_eq_some_iff.1 (Except.ok.inj hfound)
  exact hs.mapName?_of_mapNamed? hname hdeclared

end Consistent

end ReplayLedger.Store
