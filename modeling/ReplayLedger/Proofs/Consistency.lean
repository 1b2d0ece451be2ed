import ReplayLedger.Proofs.Change
import Mathlib.Data.List.Nodup

/-!
# The tables are consistent

A store is *consistent* if ids rise along every table, no two rows of a table share a key, and every
row belongs together with the rows it refers to: they exist, and they lie in one environment.  This
is what the constraints of a database with foreign keys would ask for, and more: an execution
invokes a contract of the environment of its block, a value of a variable is written at the block of
its execution, by an invocation of the contract that declares the variable, and copies of heights
are true.

Every reachable store is consistent (`Store.Reachable.consistent`), and in a consistent store every
look-up by a key finds the row with that key (`Store.Consistent.block?_eq_some` and its like).
-/

namespace ReplayLedger

/-! ## Tables with keys -/

section Tables

variable {α κ : Type} {rows : List α}

/-- The next id lies above all ids of the table. -/
lemma lt_nextId {ids : List Int} {id : Int} (h : id ∈ ids) : id < nextId ids := by
  have hfold : ∀ (ids : List Int) (start : Int),
      start ≤ ids.foldl max start ∧ ∀ id ∈ ids, id ≤ ids.foldl max start := by
    intro ids
    induction ids with
    | nil => simp
    | cons first rest ih =>
      intro start
      obtain ⟨hstart, hrest⟩ := ih (max start first)
      refine ⟨by rw [List.foldl_cons]; omega, ?_⟩
      intro id hid
      rw [List.foldl_cons]
      rcases List.mem_cons.1 hid with rfl | hid
      · omega
      · exact hrest id hid
  have hle := (hfold ids 0).2 id h
  unfold nextId
  omega

/-- Ids go on rising with the next one. -/
lemma rise_concat {key : α → Int} {row : α} (h : (rows.map key).Pairwise (· < ·))
    (fresh : key row = nextId (rows.map key)) :
    ((rows ++ [row]).map key).Pairwise (· < ·) := by
  rw [List.map_append, List.pairwise_append]
  refine ⟨h, List.pairwise_singleton _ _, ?_⟩
  intro id hid id' hid'
  obtain rfl : id' = key row := by simpa using hid'
  rw [fresh]
  exact lt_nextId hid

/-- Keys stay unique with a row whose key is found nowhere. -/
lemma unique_concat {key : α → κ} {row : α} {p : α → Bool} (h : (rows.map key).Nodup)
    (free : rows.find? p = none) (hp : ∀ a, p a = true ↔ key a = key row) :
    ((rows ++ [row]).map key).Nodup := by
  rw [List.map_append, List.nodup_append]
  refine ⟨h, List.nodup_singleton _, ?_⟩
  intro k hk k' hk'
  obtain ⟨other, hother, rfl⟩ := List.mem_map.1 hk
  obtain rfl : k' = key row := by simpa using hk'
  intro hsame
  exact List.find?_eq_none.1 free other hother ((hp other).2 hsame)

/-- Keys stay unique where rows go. -/
lemma unique_filter {key : α → κ} (p : α → Bool) (h : (rows.map key).Nodup) :
    ((rows.filter p).map key).Nodup :=
  h.sublist (List.filter_sublist.map key)

/-- Ids go on rising where rows go. -/
lemma rise_filter {key : α → Int} (p : α → Bool) (h : (rows.map key).Pairwise (· < ·)) :
    ((rows.filter p).map key).Pairwise (· < ·) :=
  h.sublist (List.filter_sublist.map key)

/-- Rising ids are unique. -/
lemma nodup_of_rise {ids : List Int} (h : ids.Pairwise (· < ·)) : ids.Nodup :=
  h.imp fun hlt => Int.ne_of_lt hlt

/-- No number of a rising list lies above the last one. -/
lemma le_getLast?_of_rise {heights : List Int} {height last : Int} (hrise : heights.Pairwise (· < ·))
    (hlast : heights.getLast? = some last) (h : height ∈ heights) : height ≤ last := by
  obtain ⟨earlier, rfl⟩ := List.getLast?_eq_some_iff.1 hlast
  rcases List.mem_append.1 h with hearlier | hsame
  · exact Int.le_of_lt ((List.pairwise_append.1 hrise).2.2 height hearlier last List.mem_cons_self)
  · exact Int.le_of_eq (List.mem_singleton.1 hsame)

/-- A rising list goes on rising with a number above the last one. -/
lemma rise_concat_of_getLast? {heights : List Int} {next : Int} (hrise : heights.Pairwise (· < ·))
    (hnext : ∀ last, heights.getLast? = some last → last < next) :
    (heights ++ [next]).Pairwise (· < ·) := by
  refine List.pairwise_append.2 ⟨hrise, List.pairwise_singleton _ _, ?_⟩
  intro height hheight next' hnext'
  obtain rfl := List.mem_singleton.1 hnext'
  obtain ⟨last, hlast⟩ := Option.ne_none_iff_exists'.1 fun hnone =>
    List.ne_nil_of_mem hheight (List.getLast?_eq_none_iff.1 hnone)
  exact Int.lt_of_le_of_lt (le_getLast?_of_rise hrise hlast hheight) (hnext last hlast)

/-- A look-up that at most one row answers finds that row. -/
lemma find?_eq_some_iff_mem {p : α → Bool} {row : α}
    (h : ∀ a ∈ rows, ∀ b ∈ rows, p a = true → p b = true → a = b) :
    rows.find? p = some row ↔ row ∈ rows ∧ p row = true := by
  constructor
  · intro hfind
    exact ⟨List.mem_of_find?_eq_some hfind, List.find?_some hfind⟩
  · rintro ⟨hmem, hp⟩
    cases hfind : rows.find? p with
    | none => exact absurd hp (List.find?_eq_none.1 hfind row hmem)
    | some other =>
      have hother := h other (List.mem_of_find?_eq_some hfind) row hmem (List.find?_some hfind) hp
      rw [hother]

/-- A look-up by a unique key finds the row with that key. -/
lemma find?_eq_some_iff_key {key : α → κ} {k : κ} {p : α → Bool} {row : α}
    (h : (rows.map key).Nodup) (hp : ∀ a, p a = true ↔ key a = k) :
    rows.find? p = some row ↔ row ∈ rows ∧ key row = k := by
  rw [find?_eq_some_iff_mem, hp]
  intro a ha b hb hpa hpb
  exact List.inj_on_of_nodup_map h ha hb (((hp a).1 hpa).trans ((hp b).1 hpb).symm)

end Tables

namespace Store

/-! ## Consistent stores -/

/-- Ids rise along every table. -/
structure IdsRise (s : Store) : Prop where
  environments : (s.environments.map (·.id)).Pairwise (· < ·)
  blocks : (s.blocks.map (·.id)).Pairwise (· < ·)
  entries : (s.entries.map (·.id)).Pairwise (· < ·)
  contracts : (s.contracts.map (·.id)).Pairwise (· < ·)
  executions : (s.executions.map (·.id)).Pairwise (· < ·)
  vars : (s.vars.map (·.id)).Pairwise (· < ·)
  instances : (s.instances.map (·.id)).Pairwise (· < ·)
  maps : (s.maps.map (·.id)).Pairwise (· < ·)
  mapEntries : (s.mapEntries.map (·.id)).Pairwise (· < ·)

/-- No two rows of a table share a key. -/
structure KeysUnique (s : Store) : Prop where
  environments : (s.environments.map (·.name)).Nodup
  blockHeights : (s.blocks.map fun row => (row.environmentId, row.height)).Nodup
  blockHashes : (s.blocks.map fun row => (row.environmentId, row.indexHash)).Nodup
  entries : (s.entries.map fun row => (row.blockId, row.keyHash)).Nodup
  contracts : (s.contracts.map fun row => (row.environmentId, row.qualifiedId)).Nodup
  executions : (s.executions.map fun row => (row.blockId, row.contractId, row.transactionId)).Nodup
  vars : (s.vars.map fun row => (row.contractId, row.key)).Nodup
  maps : (s.maps.map fun row => (row.contractId, row.name)).Nodup
  mapEntries : (s.mapEntries.map fun row => (row.mapId, row.blockId, row.keyHash)).Nodup

/-- Every row belongs together with the rows it refers to. -/
structure Linked (s : Store) : Prop where
  blocks : ∀ row ∈ s.blocks, ∃ owner ∈ s.environments, owner.id = row.environmentId
  entries : ∀ row ∈ s.entries, ∃ home ∈ s.blocks, home.id = row.blockId
  contracts : ∀ row ∈ s.contracts, ∃ owner ∈ s.environments, ∃ home ∈ s.blocks,
    owner.id = row.environmentId ∧ home.id = row.blockId ∧ home.environmentId = row.environmentId
  executions : ∀ row ∈ s.executions, ∃ home ∈ s.blocks, ∃ invoked ∈ s.contracts,
    home.id = row.blockId ∧ invoked.id = row.contractId ∧
      invoked.environmentId = home.environmentId
  vars : ∀ row ∈ s.vars, ∃ owner ∈ s.contracts, owner.id = row.contractId
  instances : ∀ row ∈ s.instances, ∃ declared ∈ s.vars, ∃ owner ∈ s.contracts, ∃ home ∈ s.blocks,
    ∃ writer ∈ s.executions, declared.id = row.variableId ∧ owner.id = declared.contractId ∧
      home.id = row.blockId ∧ writer.id = row.executionId ∧ writer.blockId = row.blockId ∧
      writer.contractId = declared.contractId ∧ home.environmentId = owner.environmentId ∧
      row.height = home.height
  maps : ∀ row ∈ s.maps, ∃ owner ∈ s.contracts, owner.id = row.contractId
  mapEntries : ∀ row ∈ s.mapEntries, ∃ declared ∈ s.maps, ∃ owner ∈ s.contracts, ∃ home ∈ s.blocks,
    declared.id = row.mapId ∧ owner.id = declared.contractId ∧ home.id = row.blockId ∧
      home.environmentId = owner.environmentId ∧ row.height = home.height

/-- Ids rise, keys are unique, rows belong together, and heights are such as the database can
hold. -/
structure Consistent (s : Store) : Prop where
  ids : s.IdsRise
  keys : s.KeysUnique
  links : s.Linked
  heights : ∀ row ∈ s.blocks, 0 ≤ row.height ∧ Storable row.height

variable {s s' : Store} {environment : Int}

/-! ## Look-ups in a consistent store -/

namespace Consistent

variable {id : Int}

/-- The first environment with an id is the one with it. -/
lemma environment?_eq_some (h : s.Consistent) {row : Environment} :
    s.environment? id = some row ↔ row ∈ s.environments ∧ row.id = id :=
  find?_eq_some_iff_key (nodup_of_rise h.ids.environments) (by simp)

/-- The first environment with a name is the one with it. -/
lemma environmentNamed?_eq_some (h : s.Consistent) {name : String} {row : Environment} :
    s.environmentNamed? name = some row ↔ row ∈ s.environments ∧ row.name = name :=
  find?_eq_some_iff_key h.keys.environments (by simp)

/-- The first block with an id is the one with it. -/
lemma block?_eq_some (h : s.Consistent) {row : Block} :
    s.block? id = some row ↔ row ∈ s.blocks ∧ row.id = id :=
  find?_eq_some_iff_key (nodup_of_rise h.ids.blocks) (by simp)

/-- The first block of an environment at a height is the one there. -/
lemma blockAt?_eq_some (h : s.Consistent) {height : Int} {row : Block} :
    s.blockAt? environment height = some row ↔
      row ∈ s.blocks ∧ (row.environmentId, row.height) = (environment, height) :=
  find?_eq_some_iff_key h.keys.blockHeights (by simp)

/-- The first contract with an id is the one with it. -/
lemma contract?_eq_some (h : s.Consistent) {row : Contract} :
    s.contract? id = some row ↔ row ∈ s.contracts ∧ row.id = id :=
  find?_eq_some_iff_key (nodup_of_rise h.ids.contracts) (by simp)

/-- The first contract of an environment with an identifier is the one with it. -/
lemma contractNamed?_eq_some (h : s.Consistent) {qualifiedId : String} {row : Contract} :
    s.contractNamed? environment qualifiedId = some row ↔
      row ∈ s.contracts ∧ (row.environmentId, row.qualifiedId) = (environment, qualifiedId) :=
  find?_eq_some_iff_key h.keys.contracts (by simp)

/-- The first execution with an id is the one with it. -/
lemma execution?_eq_some (h : s.Consistent) {row : Execution} :
    s.execution? id = some row ↔ row ∈ s.executions ∧ row.id = id :=
  find?_eq_some_iff_key (nodup_of_rise h.ids.executions) (by simp)

/-- The first variable with an id is the one with it. -/
lemma variableWithId?_eq_some (h : s.Consistent) {row : Variable} :
    s.variableWithId? id = some row ↔ row ∈ s.vars ∧ row.id = id :=
  find?_eq_some_iff_key (nodup_of_rise h.ids.vars) (by simp)

/-- The first variable of a contract with a key is the one with it. -/
lemma variableNamed?_eq_some (h : s.Consistent) {contract : Int} {key : String} {row : Variable} :
    s.variableNamed? contract key = some row ↔
      row ∈ s.vars ∧ (row.contractId, row.key) = (contract, key) :=
  find?_eq_some_iff_key h.keys.vars (by simp)

/-- The first map with an id is the one with it. -/
lemma map?_eq_some (h : s.Consistent) {row : ContractMap} :
    s.map? id = some row ↔ row ∈ s.maps ∧ row.id = id :=
  find?_eq_some_iff_key (nodup_of_rise h.ids.maps) (by simp)

/-- The first map of a contract with a name is the one with it. -/
lemma mapNamed?_eq_some (h : s.Consistent) {contract : Int} {name : String} {row : ContractMap} :
    s.mapNamed? contract name = some row ↔
      row ∈ s.maps ∧ (row.contractId, row.name) = (contract, name) :=
  find?_eq_some_iff_key h.keys.maps (by simp)

end Consistent

/-! ## What dropping leaves -/

/-- Blocks are owned by the environment in their row. -/
@[simp] lemma mem_blockIdsOf {id : Int} :
    id ∈ s.blockIdsOf environment ↔ ∃ row ∈ s.blocks, row.environmentId = environment ∧ row.id = id := by
  simp [blockIdsOf, and_assoc]

/-- Contracts are owned by the environment in their row. -/
@[simp] lemma mem_contractIdsOf {id : Int} : id ∈ s.contractIdsOf environment ↔
    ∃ row ∈ s.contracts, row.environmentId = environment ∧ row.id = id := by
  simp [contractIdsOf, and_assoc]

/-- Variables are owned by way of their contract. -/
@[simp] lemma mem_variableIdsOf {id : Int} : id ∈ s.variableIdsOf environment ↔
    ∃ row ∈ s.vars, row.contractId ∈ s.contractIdsOf environment ∧ row.id = id := by
  simp [variableIdsOf, and_assoc]

/-- Maps are owned by way of their contract. -/
@[simp] lemma mem_mapIdsOf {id : Int} : id ∈ s.mapIdsOf environment ↔
    ∃ row ∈ s.maps, row.contractId ∈ s.contractIdsOf environment ∧ row.id = id := by
  simp [mapIdsOf, and_assoc]

/-- What is left of a store without an environment: in every table, the rows that the environment
does not own. -/
lemma deleteOwned_eq : (s.deleteOwned environment).2 =
    { environments := s.environments.filter fun row => !(row.id = environment)
      blocks := s.blocks.filter fun row => !(row.environmentId = environment)
      entries := s.entries.filter fun row => !(row.blockId ∈ s.blockIdsOf environment)
      contracts := s.contracts.filter fun row => !(row.environmentId = environment)
      executions := s.executions.filter fun row => !(row.blockId ∈ s.blockIdsOf environment)
      vars := s.vars.filter fun row => !(row.contractId ∈ s.contractIdsOf environment)
      instances := s.instances.filter fun row =>
        !(row.variableId ∈ s.variableIdsOf environment ∨ row.blockId ∈ s.blockIdsOf environment)
      maps := s.maps.filter fun row => !(row.contractId ∈ s.contractIdsOf environment)
      mapEntries := s.mapEntries.filter fun row =>
        !(row.mapId ∈ s.mapIdsOf environment ∨ row.blockId ∈ s.blockIdsOf environment) } := rfl

/-! ## Every change keeps consistency -/

/-- Setting the height of an environment leaves the ids of all. -/
@[simp] lemma map_id_setMaxHeight {height : Option Int} :
    (s.setMaxHeight environment height).environments.map (·.id) = s.environments.map (·.id) := by
  simp only [setMaxHeight, List.map_map]
  apply List.map_congr_left
  intro row _
  by_cases h : row.id = environment <;> simp [h]

/-- Setting the height of an environment leaves the names of all. -/
@[simp] lemma map_name_setMaxHeight {height : Option Int} :
    (s.setMaxHeight environment height).environments.map (·.name) = s.environments.map (·.name) := by
  simp only [setMaxHeight, List.map_map]
  apply List.map_congr_left
  intro row _
  by_cases h : row.id = environment <;> simp [h]

/-- A change keeps ids rising: a new one is the next after the greatest, and a drop only takes some
away. -/
lemma IdsRise.change (h : s.IdsRise) (hchange : Change s s') : s'.IdsRise := by
  cases hchange with
  | addEnvironment row fresh => exact { h with environments := rise_concat h.environments fresh }
  | addBlock row owner fresh =>
    exact { h with
      environments := by simpa using h.environments
      blocks := rise_concat h.blocks fresh }
  | addEntry row home fresh => exact { h with entries := rise_concat h.entries fresh }
  | addContract row home fresh => exact { h with contracts := rise_concat h.contracts fresh }
  | addExecution row home invoked fresh =>
    exact { h with executions := rise_concat h.executions fresh }
  | addVariable row owner fresh => exact { h with vars := rise_concat h.vars fresh }
  | addInstance row declared owner home writer fresh =>
    exact { h with instances := rise_concat h.instances fresh }
  | addMap row owner fresh => exact { h with maps := rise_concat h.maps fresh }
  | addMapEntry row declared owner home fresh =>
    exact { h with mapEntries := rise_concat h.mapEntries fresh }
  | drop environment =>
    rw [deleteOwned_eq]
    exact ⟨rise_filter _ h.environments, rise_filter _ h.blocks, rise_filter _ h.entries,
      rise_filter _ h.contracts, rise_filter _ h.executions, rise_filter _ h.vars,
      rise_filter _ h.instances, rise_filter _ h.maps, rise_filter _ h.mapEntries⟩

/-- A change keeps keys unique: a new one has been looked for in vain, and a drop only takes some
away. -/
lemma KeysUnique.change (h : s.KeysUnique) (hchange : Change s s') : s'.KeysUnique := by
  cases hchange with
  | addEnvironment row _ free =>
    exact { h with environments := unique_concat h.environments free (by simp) }
  | addBlock row _ _ _ _ _ freeHash freeHeight =>
    exact { h with
      environments := by simpa using h.environments
      blockHeights := unique_concat h.blockHeights freeHeight (by simp)
      blockHashes := unique_concat h.blockHashes freeHash (by simp) }
  | addEntry row _ _ _ free =>
    exact { h with entries := unique_concat h.entries free (by simp) }
  | addContract row _ _ _ _ free =>
    exact { h with contracts := unique_concat h.contracts free (by simp) }
  | addExecution row _ _ _ _ _ _ free =>
    exact { h with executions := unique_concat h.executions free (by simp) }
  | addVariable row _ _ _ free => exact { h with vars := unique_concat h.vars free (by simp) }
  | addInstance => exact { h with }
  | addMap row _ _ _ free => exact { h with maps := unique_concat h.maps free (by simp) }
  | addMapEntry row _ _ _ _ _ _ _ _ _ free =>
    exact { h with mapEntries := unique_concat h.mapEntries free (by simp) }
  | drop environment =>
    rw [deleteOwned_eq]
    exact ⟨unique_filter _ h.environments, unique_filter _ h.blockHeights,
      unique_filter _ h.blockHashes, unique_filter _ h.entries, unique_filter _ h.contracts,
      unique_filter _ h.executions, unique_filter _ h.vars, unique_filter _ h.maps,
      unique_filter _ h.mapEntries⟩


/-- An id of a block of an environment is the id of no block of another one. -/
lemma IdsRise.blockId_mem_iff (h : s.IdsRise) {home : Block} (hhome : home ∈ s.blocks) :
    home.id ∈ s.blockIdsOf environment ↔ home.environmentId = environment := by
  rw [mem_blockIdsOf]
  constructor
  · rintro ⟨row, hrow, howned, hid⟩
    rwa [← List.inj_on_of_nodup_map (nodup_of_rise h.blocks) hrow hhome hid]
  · exact fun howned => ⟨home, hhome, howned, rfl⟩

/-- An id of a contract of an environment is the id of no contract of another one. -/
lemma IdsRise.contractId_mem_iff (h : s.IdsRise) {owner : Contract} (howner : owner ∈ s.contracts) :
    owner.id ∈ s.contractIdsOf environment ↔ owner.environmentId = environment := by
  rw [mem_contractIdsOf]
  constructor
  · rintro ⟨row, hrow, howned, hid⟩
    rwa [← List.inj_on_of_nodup_map (nodup_of_rise h.contracts) hrow howner hid]
  · exact fun howned => ⟨owner, howner, howned, rfl⟩

/-- A variable belongs to the environment of the contract that declares it. -/
lemma IdsRise.variableId_mem_iff (h : s.IdsRise) {declared : Variable} (hdeclared : declared ∈ s.vars)
    {owner : Contract} (howner : owner ∈ s.contracts) (hid : owner.id = declared.contractId) :
    declared.id ∈ s.variableIdsOf environment ↔ owner.environmentId = environment := by
  rw [mem_variableIdsOf, ← h.contractId_mem_iff howner, hid]
  constructor
  · rintro ⟨row, hrow, howned, hrowId⟩
    rwa [← List.inj_on_of_nodup_map (nodup_of_rise h.vars) hrow hdeclared hrowId]
  · exact fun howned => ⟨declared, hdeclared, howned, rfl⟩

/-- A map belongs to the environment of the contract that declares it. -/
lemma IdsRise.mapId_mem_iff (h : s.IdsRise) {declared : ContractMap} (hdeclared : declared ∈ s.maps)
    {owner : Contract} (howner : owner ∈ s.contracts) (hid : owner.id = declared.contractId) :
    declared.id ∈ s.mapIdsOf environment ↔ owner.environmentId = environment := by
  rw [mem_mapIdsOf, ← h.contractId_mem_iff howner, hid]
  constructor
  · rintro ⟨row, hrow, howned, hrowId⟩
    rwa [← List.inj_on_of_nodup_map (nodup_of_rise h.maps) hrow hdeclared hrowId]
  · exact fun howned => ⟨declared, hdeclared, howned, rfl⟩

/-- What is left after dropping an environment belongs together: the rows that a row of another
environment refers to are rows of that environment. -/
lemma Linked.drop (h : s.Linked) (hids : s.IdsRise) : (s.deleteOwned environment).2.Linked := by
  rw [deleteOwned_eq]
  -- table by table: what a kept row refers to is of its environment, so it is kept too
  constructor
  · intro row hrow
    obtain ⟨hrow, hkept⟩ := List.mem_filter.1 hrow
    obtain ⟨owner, howner, hid⟩ := h.blocks row hrow
    refine ⟨owner, List.mem_filter.2 ⟨howner, ?_⟩, hid⟩
    rwa [hid]
  · intro row hrow
    obtain ⟨hrow, hkept⟩ := List.mem_filter.1 hrow
    obtain ⟨home, hhome, hid⟩ := h.entries row hrow
    simp only [← hid, hids.blockId_mem_iff hhome] at hkept
    exact ⟨home, List.mem_filter.2 ⟨hhome, hkept⟩, hid⟩
  · intro row hrow
    obtain ⟨hrow, hkept⟩ := List.mem_filter.1 hrow
    obtain ⟨owner, howner, home, hhome, hid, hhomeId, howned⟩ := h.contracts row hrow
    refine ⟨owner, List.mem_filter.2 ⟨howner, ?_⟩, home, List.mem_filter.2 ⟨hhome, ?_⟩, hid, hhomeId,
      howned⟩
    · rwa [hid]
    · rwa [howned]
  · intro row hrow
    obtain ⟨hrow, hkept⟩ := List.mem_filter.1 hrow
    obtain ⟨home, hhome, invoked, hinvoked, hid, hinvokedId, howned⟩ := h.executions row hrow
    simp only [← hid, hids.blockId_mem_iff hhome] at hkept
    refine ⟨home, List.mem_filter.2 ⟨hhome, hkept⟩, invoked, List.mem_filter.2 ⟨hinvoked, ?_⟩, hid,
      hinvokedId, howned⟩
    rwa [howned]
  · intro row hrow
    obtain ⟨hrow, hkept⟩ := List.mem_filter.1 hrow
    obtain ⟨owner, howner, hid⟩ := h.vars row hrow
    simp only [← hid, hids.contractId_mem_iff howner] at hkept
    exact ⟨owner, List.mem_filter.2 ⟨howner, hkept⟩, hid⟩
  · intro row hrow
    obtain ⟨hrow, hkept⟩ := List.mem_filter.1 hrow
    obtain ⟨declared, hdeclared, owner, howner, home, hhome, writer, hwriter, hid, hownerId, hhomeId,
      hwriterId, hhere, hown, howned, hheight⟩ := h.instances row hrow
    simp only [← hid, ← hhomeId, hids.blockId_mem_iff hhome,
      hids.variableId_mem_iff hdeclared howner hownerId, ← howned, or_self] at hkept
    refine ⟨declared, List.mem_filter.2 ⟨hdeclared, ?_⟩, owner, List.mem_filter.2 ⟨howner, ?_⟩, home,
      List.mem_filter.2 ⟨hhome, hkept⟩, writer, List.mem_filter.2 ⟨hwriter, ?_⟩, hid, hownerId,
      hhomeId, hwriterId, hhere, hown, howned, hheight⟩
    · simpa only [← hownerId, hids.contractId_mem_iff howner, ← howned] using hkept
    · simpa only [← howned] using hkept
    · simpa only [hhere, ← hhomeId, hids.blockId_mem_iff hhome] using hkept
  · intro row hrow
    obtain ⟨hrow, hkept⟩ := List.mem_filter.1 hrow
    obtain ⟨owner, howner, hid⟩ := h.maps row hrow
    simp only [← hid, hids.contractId_mem_iff howner] at hkept
    exact ⟨owner, List.mem_filter.2 ⟨howner, hkept⟩, hid⟩
  · intro row hrow
    obtain ⟨hrow, hkept⟩ := List.mem_filter.1 hrow
    obtain ⟨declared, hdeclared, owner, howner, home, hhome, hid, hownerId, hhomeId, howned,
      hheight⟩ := h.mapEntries row hrow
    simp only [← hid, ← hhomeId, hids.blockId_mem_iff hhome,
      hids.mapId_mem_iff hdeclared howner hownerId, ← howned, or_self] at hkept
    refine ⟨declared, List.mem_filter.2 ⟨hdeclared, ?_⟩, owner, List.mem_filter.2 ⟨howner, ?_⟩, home,
      List.mem_filter.2 ⟨hhome, hkept⟩, hid, hownerId, hhomeId, howned, hheight⟩
    · simpa only [← hownerId, hids.contractId_mem_iff howner, ← howned] using hkept
    · simpa only [← howned] using hkept

section LookUps

variable {id : Int}

/-- An environment that is found by its id is in the table and has it. -/
lemma mem_of_environment? {row : Environment} (h : s.environment? id = some row) :
    row ∈ s.environments ∧ row.id = id :=
  ⟨List.mem_of_find?_eq_some h, by simpa using List.find?_some h⟩

/-- A block that is found by its id is in the table and has it. -/
lemma mem_of_block? {row : Block} (h : s.block? id = some row) : row ∈ s.blocks ∧ row.id = id :=
  ⟨List.mem_of_find?_eq_some h, by simpa using List.find?_some h⟩

/-- A contract that is found by its id is in the table and has it. -/
lemma mem_of_contract? {row : Contract} (h : s.contract? id = some row) :
    row ∈ s.contracts ∧ row.id = id :=
  ⟨List.mem_of_find?_eq_some h, by simpa using List.find?_some h⟩

/-- An execution that is found by its id is in the table and has it. -/
lemma mem_of_execution? {row : Execution} (h : s.execution? id = some row) :
    row ∈ s.executions ∧ row.id = id :=
  ⟨List.mem_of_find?_eq_some h, by simpa using List.find?_some h⟩

/-- A variable that is found by its id is in the table and has it. -/
lemma mem_of_variableWithId? {row : Variable} (h : s.variableWithId? id = some row) :
    row ∈ s.vars ∧ row.id = id :=
  ⟨List.mem_of_find?_eq_some h, by simpa using List.find?_some h⟩

/-- A map that is found by its id is in the table and has it. -/
lemma mem_of_map? {row : ContractMap} (h : s.map? id = some row) : row ∈ s.maps ∧ row.id = id :=
  ⟨List.mem_of_find?_eq_some h, by simpa using List.find?_some h⟩

end LookUps

/-- A new block of an existing environment is linked, and what was linked stays so. -/
lemma Linked.addBlock (h : s.Linked) {environments : List Environment} {row : Block}
    (hids : environments.map (·.id) = s.environments.map (·.id))
    (owned : ∃ owner ∈ s.environments, owner.id = row.environmentId) :
    Linked { s with environments, blocks := s.blocks ++ [row] } := by
  have hlive : ∀ owner ∈ s.environments, ∃ owner' ∈ environments, owner'.id = owner.id := by
    intro owner howner
    have hid : owner.id ∈ environments.map (·.id) := hids ▸ List.mem_map_of_mem howner
    exact List.mem_map.1 hid
  refine { h with blocks := ?_, entries := ?_, contracts := ?_, executions := ?_, instances := ?_,
                  mapEntries := ?_ }
  · grind [h.blocks]
  · grind [h.entries]
  · grind [h.contracts]
  · grind [h.executions]
  · grind [h.instances]
  · grind [h.mapEntries]

/-- A change keeps rows linked: what a new row refers to has been found, and a drop takes along all
that refers to what it takes. -/
lemma Linked.change (h : s.Linked) (hids : s.IdsRise) (hchange : Change s s') : s'.Linked := by
  cases hchange with
  | addEnvironment row =>
    refine { h with blocks := ?_, contracts := ?_ }
    · grind [h.blocks]
    · grind [h.contracts]
  | addBlock row owner _ owned =>
    obtain ⟨howner, hid⟩ := mem_of_environment? owned
    exact h.addBlock map_id_setMaxHeight ⟨owner, howner, hid⟩
  | addEntry row home _ placed =>
    obtain ⟨hhome, hid⟩ := mem_of_block? placed
    refine { h with entries := ?_ }
    grind [h.entries]
  | addContract row home _ placed owned =>
    obtain ⟨hhome, hid⟩ := mem_of_block? placed
    refine { h with contracts := ?_, executions := ?_, vars := ?_, instances := ?_, maps := ?_, mapEntries := ?_ }
    · grind [h.blocks, h.contracts]
    · grind [h.executions]
    · grind [h.vars]
    · grind [h.instances]
    · grind [h.maps]
    · grind [h.mapEntries]
  | addExecution row home invoked _ placed known owned =>
    obtain ⟨hhome, hid⟩ := mem_of_block? placed
    obtain ⟨hinvoked, hinvokedId⟩ := mem_of_contract? known
    refine { h with executions := ?_, instances := ?_ }
    · grind [h.executions]
    · grind [h.instances]
  | addVariable row owner _ known =>
    obtain ⟨howner, hid⟩ := mem_of_contract? known
    refine { h with vars := ?_, instances := ?_ }
    · grind [h.vars]
    · grind [h.instances]
  | addInstance row declared owner home writer _ known declares placed owned height written here own =>
    obtain ⟨hdeclared, hid⟩ := mem_of_variableWithId? known
    obtain ⟨howner, hownerId⟩ := mem_of_contract? declares
    obtain ⟨hhome, hhomeId⟩ := mem_of_block? placed
    obtain ⟨hwriter, hwriterId⟩ := mem_of_execution? written
    refine { h with instances := ?_ }
    grind [h.instances]
  | addMap row owner _ known =>
    obtain ⟨howner, hid⟩ := mem_of_contract? known
    refine { h with maps := ?_, mapEntries := ?_ }
    · grind [h.maps]
    · grind [h.mapEntries]
  | addMapEntry row declared owner home _ known declares placed owned height =>
    obtain ⟨hdeclared, hid⟩ := mem_of_map? known
    obtain ⟨howner, hownerId⟩ := mem_of_contract? declares
    obtain ⟨hhome, hhomeId⟩ := mem_of_block? placed
    refine { h with mapEntries := ?_ }
    grind [h.mapEntries]
  | drop environment => exact h.drop hids

/-- Every change keeps a store consistent. -/
theorem Consistent.change (h : s.Consistent) (hchange : Change s s') : s'.Consistent := by
  refine ⟨h.ids.change hchange, h.keys.change hchange, h.links.change h.ids hchange, ?_⟩
  cases hchange with
  | addBlock row owner _ _ _ inRange =>
    intro other hother
    rcases List.mem_append.1 hother with hother | hother
    · exact h.heights other hother
    · rw [List.mem_singleton.1 hother]
      exact inRange
  | drop environment =>
    intro other hother
    rw [deleteOwned_eq] at hother
    exact h.heights other (List.mem_filter.1 hother).1
  | _ => exact h.heights

/-- A store without rows is consistent. -/
lemma consistent_empty : Store.empty.Consistent := by
  refine ⟨?_, ?_, ?_, ?_⟩
  · constructor <;> exact List.Pairwise.nil
  · constructor <;> exact List.nodup_nil
  · constructor <;> simp [Store.empty]
  · simp [Store.empty]

/-- Every reachable store is consistent. -/
theorem Reachable.consistent (h : s.Reachable) : s.Consistent :=
  h.induct consistent_empty fun hchange hs => hs.change hchange

/-! ## Listings by id -/

/-- Rows in the order of their ids. -/
def inOrderOfIds {α : Type} (id : α → Int) (rows : List α) : List α :=
  rows.mergeSort fun a b => id a ≤ id b

/-- Rows whose ids rise are in the order of their ids, and so are those of them that are picked. -/
lemma inOrderOfIds_filter {α : Type} {id : α → Int} {rows : List α}
    (hrise : (rows.map id).Pairwise (· < ·)) (p : α → Bool) :
    inOrderOfIds id (rows.filter p) = rows.filter p := by
  refine List.mergeSort_of_pairwise ?_
  have hpicked : (rows.filter p).Pairwise fun a b => id a < id b :=
    (List.pairwise_map.1 hrise).filter p
  exact hpicked.imp fun hlt => decide_eq_true (Int.le_of_lt hlt)

/-- What is listed by id is listed in the order of the table: to sort the rows by their ids would
change nothing.  This holds of the listings of environments, contracts and executions, and of the
writes to variables at a block, of which the last one counts. -/
theorem Consistent.listed_inOrderOfIds (hs : s.Consistent) :
    inOrderOfIds (·.id) s.listEnvironments = s.listEnvironments ∧
      (∀ environment rows, s.listContracts environment = .ok rows → inOrderOfIds (·.id) rows = rows) ∧
      (∀ block rows, s.listExecutions block = .ok rows → inOrderOfIds (·.id) rows = rows) ∧
      ∀ block, s.variableTable block = Association.ofWrites
        ((inOrderOfIds (·.id) (s.instances.filter fun row => row.blockId = block)).filterMap
          fun row => (s.slotOfInstance? row).map (·, row.value)) := by
  refine ⟨?_, fun environment rows h => ?_, fun block rows h => ?_, fun block => ?_⟩
  · simpa [listEnvironments] using inOrderOfIds_filter hs.ids.environments fun _ => true
  · simp only [listContracts, bind_eq_ok, pure_eq_ok] at h
    obtain ⟨-, -, rfl⟩ := h
    exact inOrderOfIds_filter hs.ids.contracts _
  · simp only [listExecutions, bind_eq_ok, pure_eq_ok] at h
    obtain ⟨-, -, rfl⟩ := h
    exact inOrderOfIds_filter hs.ids.executions _
  · rw [inOrderOfIds_filter hs.ids.instances]
    rfl

end Store

/-- In every reachable database, and after any steps from there, inside transactions that are kept
or aborted and outside of them, the tables are consistent. -/
theorem Database.Reachable.tables_consistent {db : Database} (h : db.Reachable) :
    db.tables.Consistent ∧
      ∀ steps, Step.areHarmless steps → (Step.runAll db steps).2.tables.Consistent :=
  ⟨h.stores.1.consistent, fun steps hsteps =>
    (Step.reachable_runAll h steps hsteps).stores.1.consistent⟩

/-- The tables are consistent after a payload with rows for all of them, a transaction that drops its
environment and is aborted, and one that is kept, with a failing step. -/
theorem Database.tables_consistent_of_payload :
    let payload : Value := .record [("environment", .text "a"), ("height", .int 4),
      ("index_hash", .bytes [1]), ("trie_root_hash", .bytes [2]),
      ("entries", .list [.record [("key_hash", .bytes [3]), ("value", .bytes [])]]),
      ("contracts", .list [.record [("qualified_id", .text "c"), ("source", .bytes [])]]),
      ("executions", .list [.record [("contract", .text "c"), ("tx_id", .bytes [5])]]),
      ("variables", .list [.record [("contract", .text "c"), ("key", .text "k"),
        ("tx_id", .bytes [5]), ("value", .bytes [6])]]),
      ("maps", .list [.record [("contract", .text "c"), ("name", .text "m"),
        ("key_hash", .bytes [7]), ("value", .bytes [8])]])]
    let steps : List Step :=
      [.call (.createEnvironment (.text "a") (.int 1) (.text "/a")), .call (.applyBlock payload),
        .transaction [.transaction [.call (.dropEnvironment 1)] false] true,
        .transaction [.call (.createEnvironment (.text "b") (.int 2) (.text "/b")),
          .call (.applyBlock payload)] false]
    Step.areHarmless steps ∧
      (Step.runAll {} steps).2.tables.rowCounts = ⟨2, 1, 1, 1, 1, 1, 1, 1, 1⟩ ∧
      (Step.runAll {} steps).2.tables.Consistent := by
  intro payload steps
  refine ⟨by decide, by decide +kernel, ?_⟩
  exact (Database.Reachable.new false).tables_consistent.2 steps (by decide)

end ReplayLedger
