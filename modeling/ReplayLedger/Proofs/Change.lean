import ReplayLedger.Proofs.Scopes
import Mathlib.Logic.Relation

/-!
# What an accepted write does

`Store.Change` lists once and for all what a single accepted write can do to a store: it appends one
row to one table, under the conditions that were checked for it, or it removes what an environment
owns.  Recording a block also sets the height that its environment has reached.

Every accepted call makes a number of such changes (`Call.changes_of_run`): a read makes none, a
payload as many as it has parts and new declarations.  What holds in every reachable store is
therefore proved by looking at one change at a time (`Store.Reachable.induct`).

`Call.Effect` lists what an accepted call can do.  Unless it drops an environment, it only appends to
the tables.  A single write reaches the environments that it is addressed to, and what the others own
stays as it is (`Store.Writes`).
-/

namespace ReplayLedger

/-- The check of an integer passes if the database can hold it. -/
@[simp] lemma storable_eq_ok {n : Int} {u : Unit} : storable n = .ok u ↔ Storable n := by
  simp [storable]

/-- The check of an id passes if the database can hold it or has it already. -/
@[simp] lemma storableId_eq_ok {ids : List Int} {id : Int} {u : Unit} :
    storableId ids id = .ok u ↔ Storable id ∨ id ∈ ids := by
  simp [storableId]

/-- A name reaches the database if it is well formed. -/
@[simp] lemma encoded_eq_ok {name : RawName} {text : String} :
    name.encoded = .ok text ↔ name = .text text := by
  cases name <;> simp [RawName.encoded]

@[simp] lemma pure_eq_ok {ε α : Type} {a b : α} : (pure a : Except ε α) = .ok b ↔ a = b := by
  simp [pure, Except.pure]

@[simp] lemma ok_bind {ε α β : Type} {a : α} {f : α → Except ε β} :
    ((.ok a : Except ε α) >>= f) = f a := rfl

/-- The id of a row can be looked for. -/
lemma storableId_of_find? {α : Type} {rows : List α} {key : α → Int} {id : Int} {row : α}
    (h : rows.find? (fun row => key row = id) = some row) : storableId (rows.map key) id = .ok () := by
  have hid : key row = id := by simpa using List.find?_some h
  exact storableId_eq_ok.2 (.inr (hid ▸ List.mem_map_of_mem (List.mem_of_find?_eq_some h)))

/-- What is looked for under an id that exists is answered, if it is found. -/
lemma require_of_storableId_eq_ok {α : Type} {ids : List Int} {id : Int} {found : Option α} {e : Error}
    {row : α} (hid : found = some row → id ∈ ids) :
    (storableId ids id >>= fun _ => require found e) = .ok row ↔ found = some row := by
  simp only [bind_eq_ok, storableId_eq_ok, require_eq_ok]
  constructor
  · rintro ⟨-, -, hfound⟩
    exact hfound
  · intro hfound
    exact ⟨(), .inr (hid hfound), hfound⟩

/-- A row that is looked for by its id is answered, if it is in the table. -/
lemma require_row_eq_ok {α : Type} {rows : List α} {key : α → Int} {id : Int} {found : Option α}
    {e : Error} {row : α} (hfound : found = some row ↔ row ∈ rows ∧ key row = id) :
    (storableId (rows.map key) id >>= fun _ => require found e) = .ok row ↔
      row ∈ rows ∧ key row = id := by
  refine (require_of_storableId_eq_ok fun h => ?_).trans hfound
  obtain ⟨hrow, rfl⟩ := hfound.1 h
  exact List.mem_map_of_mem hrow

/-- An environment as it was when it was created. -/
def Environment.identity (row : Environment) : Environment := { row with maxHeight := none }

/-- An identity determines the id. -/
lemma Environment.id_eq_of_identity {row row' : Environment} (h : row.identity = row'.identity) :
    row.id = row'.id :=
  (congrArg Environment.id h :)

namespace Store

/-- What a single accepted write can do to a store. -/
inductive Change (s : Store) : Store → Prop
  /-- A new environment has a new name and no blocks. -/
  | addEnvironment (row : Environment)
    (fresh : row.id = nextId (s.environments.map (·.id)))
    (free : s.environmentNamed? row.name = none)
    (idle : row.maxHeight = none) :
    Change s { s with environments := s.environments ++ [row] }
  /-- A new block advances its environment, under a hash and at a height that are new there. -/
  | addBlock (row : Block) (owner : Environment)
    (fresh : row.id = nextId (s.blocks.map (·.id)))
    (owned : s.environment? row.environmentId = some owner)
    (advances : ∀ height, owner.maxHeight = some height → height < row.height)
    (inRange : 0 ≤ row.height ∧ Storable row.height)
    (freeHash : s.blockWithHash? row.environmentId row.indexHash = none)
    (freeHeight : s.blockAt? row.environmentId row.height = none) :
    Change s { s.setMaxHeight row.environmentId (some row.height) with
      blocks := s.blocks ++ [row] }
  /-- A new entry has a key that is new at its block. -/
  | addEntry (row : StateEntry) (home : Block)
    (fresh : row.id = nextId (s.entries.map (·.id)))
    (placed : s.block? row.blockId = some home)
    (free : s.entry? row.blockId row.keyHash = none) :
    Change s { s with entries := s.entries ++ [row] }
  /-- A new contract belongs to the environment of its block and has an identifier that is new
  there. -/
  | addContract (row : Contract) (home : Block)
    (fresh : row.id = nextId (s.contracts.map (·.id)))
    (placed : s.block? row.blockId = some home)
    (owned : row.environmentId = home.environmentId)
    (free : s.contractNamed? row.environmentId row.qualifiedId = none) :
    Change s { s with contracts := s.contracts ++ [row] }
  /-- A new execution invokes a contract of the environment of its block, once for a
  transaction. -/
  | addExecution (row : Execution) (home : Block) (invoked : Contract)
    (fresh : row.id = nextId (s.executions.map (·.id)))
    (placed : s.block? row.blockId = some home)
    (known : s.contract? row.contractId = some invoked)
    (owned : invoked.environmentId = home.environmentId)
    (free : s.executionOf? row.blockId row.contractId row.transactionId = none) :
    Change s { s with executions := s.executions ++ [row] }
  /-- A new variable has a key that is not blank and is new in its contract. -/
  | addVariable (row : Variable) (owner : Contract)
    (fresh : row.id = nextId (s.vars.map (·.id)))
    (known : s.contract? row.contractId = some owner)
    (free : s.variableNamed? row.contractId row.key = none)
    (named : ¬ Text.IsBlankText row.key) :
    Change s { s with vars := s.vars ++ [row] }
  /-- A new instance is written by an execution of the variable's contract at its block. -/
  | addInstance (row : VariableInstance) (declared : Variable) (owner : Contract) (home : Block)
    (writer : Execution)
    (fresh : row.id = nextId (s.instances.map (·.id)))
    (known : s.variableWithId? row.variableId = some declared)
    (declares : s.contract? declared.contractId = some owner)
    (placed : s.block? row.blockId = some home)
    (owned : home.environmentId = owner.environmentId)
    (height : row.height = home.height)
    (written : s.execution? row.executionId = some writer)
    (here : writer.blockId = row.blockId)
    (own : writer.contractId = declared.contractId) :
    Change s { s with instances := s.instances ++ [row] }
  /-- A new map has a name that is not blank and is new in its contract. -/
  | addMap (row : ContractMap) (owner : Contract)
    (fresh : row.id = nextId (s.maps.map (·.id)))
    (known : s.contract? row.contractId = some owner)
    (free : s.mapNamed? row.contractId row.name = none)
    (named : ¬ Text.IsBlankText row.name) :
    Change s { s with maps := s.maps ++ [row] }
  /-- A new map entry has a key that is new in its map at its block. -/
  | addMapEntry (row : MapEntry) (declared : ContractMap) (owner : Contract) (home : Block)
    (fresh : row.id = nextId (s.mapEntries.map (·.id)))
    (known : s.map? row.mapId = some declared)
    (declares : s.contract? declared.contractId = some owner)
    (placed : s.block? row.blockId = some home)
    (owned : home.environmentId = owner.environmentId)
    (height : row.height = home.height)
    (free : s.mapEntry? row.mapId row.blockId row.keyHash = none) :
    Change s { s with mapEntries := s.mapEntries ++ [row] }
  /-- An environment goes with all it owns. -/
  | drop (environment : Int) (owner : Environment)
    (known : s.environment? environment = some owner) :
    Change s (s.deleteOwned environment).2

/-- Any number of changes, one after the other. -/
abbrev Changes : Store → Store → Prop := Relation.ReflTransGen Change

/-- Rows were appended to the tables, and the rows that were there are as they were, up to the heights
that environments have reached. -/
structure Appends (s s' : Store) : Prop where
  environments : s.environments.map Environment.identity <+: s'.environments.map Environment.identity
  blocks : s.blocks <+: s'.blocks
  entries : s.entries <+: s'.entries
  contracts : s.contracts <+: s'.contracts
  executions : s.executions <+: s'.executions
  vars : s.vars <+: s'.vars
  instances : s.instances <+: s'.instances
  maps : s.maps <+: s'.maps
  mapEntries : s.mapEntries <+: s'.mapEntries

lemma Appends.refl (s : Store) : Appends s s := by
  constructor <;> exact List.prefix_rfl

/-- What is appended to and appended to again is appended to. -/
lemma Appends.trans {s₁ s₂ s₃ : Store} (h : Appends s₁ s₂) (h' : Appends s₂ s₃) : Appends s₁ s₃ where
  environments := h.environments.trans h'.environments
  blocks := h.blocks.trans h'.blocks
  entries := h.entries.trans h'.entries
  contracts := h.contracts.trans h'.contracts
  executions := h.executions.trans h'.executions
  vars := h.vars.trans h'.vars
  instances := h.instances.trans h'.instances
  maps := h.maps.trans h'.maps
  mapEntries := h.mapEntries.trans h'.mapEntries

/-- Any number of changes that only append. -/
structure Additions (s s' : Store) : Prop where
  changes : Changes s s'
  appends : Appends s s'

lemma Additions.refl (s : Store) : Additions s s := ⟨.refl, .refl s⟩

/-- Additions after additions are additions. -/
lemma Additions.trans {s₁ s₂ s₃ : Store} (h : Additions s₁ s₂) (h' : Additions s₂ s₃) :
    Additions s₁ s₃ :=
  ⟨h.changes.trans h'.changes, h.appends.trans h'.appends⟩

/-- A single write that appends to the tables.  What an environment owns stays as it is unless the
write reaches it. -/
structure Writes (s : Store) (reaches : Int → Prop) (s' : Store) : Prop where
  change : Change s s'
  appends : Appends s s'
  frame {environment : Int} : ¬ reaches environment → s'.ownedBy environment = s.ownedBy environment

/-- A single write is one addition. -/
lemma Writes.additions {s s' : Store} {reaches : Int → Prop} (h : Writes s reaches s') :
    Additions s s' :=
  ⟨.single h.change, h.appends⟩

/-- What a write reaches may be told more coarsely. -/
lemma Writes.mono {s s' : Store} {reaches reaches' : Int → Prop} (h : Writes s reaches s')
    (hreaches : ∀ {environment}, reaches environment → reaches' environment) :
    Writes s reaches' s' :=
  ⟨h.change, h.appends, fun hother => h.frame fun hreached => hother (hreaches hreached)⟩

variable {s s' : Store} {environment id : Int}

/-! ## What is owned stays -/

/-- A row outside of a class leaves the class as it is. -/
lemma filter_concat {α : Type} {rows : List α} {row : α} {p : α → Bool} (h : ¬ p row) :
    (rows ++ [row]).filter p = rows.filter p := by
  simp [h]

/-- An environment owns the same where every table has the same rows for it. -/
lemma ownedBy_eq
    (environments : s'.environments.filter (fun row => row.id = environment) =
      s.environments.filter fun row => row.id = environment)
    (blocks : s'.blocks.filter (fun row => row.environmentId = environment) =
      s.blocks.filter fun row => row.environmentId = environment)
    (entries : s'.entries.filter (fun row => row.blockId ∈ s.blockIdsOf environment) =
      s.entries.filter fun row => row.blockId ∈ s.blockIdsOf environment)
    (contracts : s'.contracts.filter (fun row => row.environmentId = environment) =
      s.contracts.filter fun row => row.environmentId = environment)
    (executions : s'.executions.filter (fun row => row.blockId ∈ s.blockIdsOf environment) =
      s.executions.filter fun row => row.blockId ∈ s.blockIdsOf environment)
    (vars : s'.vars.filter (fun row => row.contractId ∈ s.contractIdsOf environment) =
      s.vars.filter fun row => row.contractId ∈ s.contractIdsOf environment)
    (instances : s'.instances.filter (fun row =>
        row.variableId ∈ s.variableIdsOf environment ∨ row.blockId ∈ s.blockIdsOf environment) =
      s.instances.filter fun row =>
        row.variableId ∈ s.variableIdsOf environment ∨ row.blockId ∈ s.blockIdsOf environment)
    (maps : s'.maps.filter (fun row => row.contractId ∈ s.contractIdsOf environment) =
      s.maps.filter fun row => row.contractId ∈ s.contractIdsOf environment)
    (mapEntries : s'.mapEntries.filter (fun row =>
        row.mapId ∈ s.mapIdsOf environment ∨ row.blockId ∈ s.blockIdsOf environment) =
      s.mapEntries.filter fun row =>
        row.mapId ∈ s.mapIdsOf environment ∨ row.blockId ∈ s.blockIdsOf environment) :
    s'.ownedBy environment = s.ownedBy environment := by
  have hblocks : s'.blockIdsOf environment = s.blockIdsOf environment := by
    rw [blockIdsOf, blocks, blockIdsOf]
  have hcontracts : s'.contractIdsOf environment = s.contractIdsOf environment := by
    rw [contractIdsOf, contracts, contractIdsOf]
  have hvars : s'.variableIdsOf environment = s.variableIdsOf environment := by
    simp only [variableIdsOf, hcontracts, vars]
  have hmaps : s'.mapIdsOf environment = s.mapIdsOf environment := by
    simp only [mapIdsOf, hcontracts, maps]
  simp only [ownedBy, hblocks, hcontracts, hvars, hmaps, environments, blocks, entries, contracts,
    executions, vars, instances, maps, mapEntries]

/-- The height that an environment has reached belongs to no other one. -/
lemma filter_setMaxHeight {updated : Int} {height : Option Int} (h : updated ≠ environment) :
    (s.setMaxHeight updated height).environments.filter (fun row => row.id = environment) =
      s.environments.filter fun row => row.id = environment := by
  unfold setMaxHeight
  induction s.environments with
  | nil => rfl
  | cons row rest ih =>
    rw [List.map_cons]
    by_cases hrow : row.id = updated
    · simpa [hrow, h] using ih
    · simp only [if_neg hrow, List.filter_cons, ih]

/-- Setting the height of an environment leaves the identities of all. -/
lemma map_identity_setMaxHeight {updated : Int} {height : Option Int} :
    (s.setMaxHeight updated height).environments.map Environment.identity =
      s.environments.map Environment.identity := by
  simp only [setMaxHeight, List.map_map]
  apply List.map_congr_left
  intro row _
  by_cases h : row.id = updated <;> simp [Environment.identity, h]

/-- A block that is found is one of its environment. -/
lemma blockId_mem_of_block? {home : Block} (h : s.block? id = some home) :
    id ∈ s.blockIdsOf home.environmentId := by
  have hid : home.id = id := by simpa using List.find?_some h
  exact List.mem_map.2 ⟨home, List.mem_filter.2 ⟨List.mem_of_find?_eq_some h, by simp⟩, hid⟩

/-! ## Single writes -/

/-- A new environment gets the next id and a name that is free, and has no blocks. -/
lemma exists_of_createEnvironment {name kind path : Value}
    (h : s.createEnvironment name kind path = .ok (id, s')) :
    ∃ row : Environment, row.id = nextId (s.environments.map (·.id)) ∧
      s.environmentNamed? row.name = none ∧ row.maxHeight = none ∧ id = row.id ∧
      s' = { s with environments := s.environments ++ [row] } := by
  simp only [createEnvironment, bind_eq_ok, ensure_eq_ok, pure_eq_ok] at h
  obtain ⟨-, -, -, -, k, -, n, -, -, hfree, p, -, hs⟩ := h
  obtain ⟨rfl, rfl⟩ := Prod.mk.inj hs
  exact ⟨⟨_, n, k, p, none⟩, rfl, hfree, rfl, rfl, rfl⟩

/-- Creating an environment reaches the new one only. -/
lemma writes_of_createEnvironment {name kind path : Value}
    (h : s.createEnvironment name kind path = .ok (id, s')) :
    Writes s (· = nextId (s.environments.map (·.id))) s' := by
  obtain ⟨row, hid, hfree, hheight, -, rfl⟩ := exists_of_createEnvironment h
  refine ⟨.addEnvironment row hid hfree hheight, { Appends.refl s with environments := ?_ },
    fun hother => ownedBy_eq (filter_concat (by simpa [hid] using Ne.symm hother))
      rfl rfl rfl rfl rfl rfl rfl rfl⟩
  rw [List.map_append]
  exact List.prefix_append _ _

/-- An environment that is dropped exists, and all that it owns goes with it. -/
lemma exists_of_dropEnvironment {removed : RowCounts}
    (h : s.dropEnvironment id = .ok (removed, s')) :
    ∃ owner, s.environment? id = some owner ∧ s' = (s.deleteOwned id).2 := by
  simp only [dropEnvironment, bind_eq_ok, require_eq_ok, pure_eq_ok] at h
  obtain ⟨-, -, owner, hknown, hs⟩ := h
  exact ⟨owner, hknown, (congrArg Prod.snd hs).symm⟩

/-- Dropping an environment is a single change. -/
lemma change_of_dropEnvironment {removed : RowCounts} (h : s.dropEnvironment id = .ok (removed, s')) :
    Change s s' := by
  obtain ⟨owner, hknown, rfl⟩ := exists_of_dropEnvironment h
  exact .drop id owner hknown

/-- A height advances an environment if it lies above the height that is reached, if any is. -/
lemma advances_eq_ok {owner : Environment} {height : Int} {u : Unit} :
    owner.advances height = .ok u ↔ ∀ maxHeight, owner.maxHeight = some maxHeight →
      maxHeight < height := by
  unfold Environment.advances
  cases owner.maxHeight <;> simp

/-- Facts of a block that have been read have a height that is not negative. -/
lemma ofValues_height {height indexHash trieRoot : Value} {facts : BlockFacts}
    (h : BlockFacts.ofValues height indexHash trieRoot = .ok facts) : 0 ≤ facts.height := by
  simp only [BlockFacts.ofValues, Argument.height, bind_eq_ok, ensure_eq_ok, pure_eq_ok] at h
  obtain ⟨n, ⟨m, -, -, hm, rfl⟩, i, -, r, -, rfl⟩ := h
  exact hm

/-- Recording a block reaches the environment that is named.  It appends a row and sets the height
that the environment has reached. -/
lemma writes_of_recordBlock {height indexHash trieRoot : Value}
    (h : s.recordBlock environment height indexHash trieRoot = .ok (id, s')) :
    Writes s (environment = ·) s' := by
  simp only [recordBlock, checkBlock, advance, insertBlock, bind_eq_ok, ensure_eq_ok, require_eq_ok,
    storable_eq_ok, pure_eq_ok, advances_eq_ok] at h
  obtain ⟨facts, hfacts, -, ⟨-, -, owner, howned, -, hadvances, hhash⟩, s₁, ⟨-, hrange, rfl⟩, -,
    hheight, hs⟩ := h
  rw [← (Prod.mk.inj hs).2]
  refine ⟨.addBlock ⟨_, environment, facts.height, facts.indexHash, facts.trieRoot⟩ owner rfl howned
    hadvances ⟨ofValues_height hfacts, hrange⟩ hhash hheight,
    { Appends.refl s with environments := ?_, blocks := List.prefix_append _ _ }, fun hother =>
    ownedBy_eq (filter_setMaxHeight hother) (filter_concat (by simpa using hother)) rfl rfl rfl rfl rfl
      rfl rfl⟩
  show s.environments.map Environment.identity <+: (s.setMaxHeight _ _).environments.map _
  simp only [map_identity_setMaxHeight, List.prefix_rfl]

/-- Putting an entry reaches the environment of the block. -/
lemma writes_of_putEntry {block : Int} {keyHash value : Value}
    (h : s.putEntry block keyHash value = .ok (id, s')) :
    Writes s (block ∈ s.blockIdsOf ·) s' := by
  simp only [putEntry, referencedBlock, bind_eq_ok, ensure_eq_ok, require_eq_ok, pure_eq_ok] at h
  obtain ⟨k, -, v, -, home, ⟨-, -, hplaced⟩, -, hfree, hs⟩ := h
  rw [← (Prod.mk.inj hs).2]
  exact ⟨.addEntry ⟨_, block, k, v⟩ home rfl hplaced hfree,
    { Appends.refl s with entries := List.prefix_append _ _ }, fun hother =>
    ownedBy_eq rfl rfl (filter_concat (by simpa using hother)) rfl rfl rfl rfl rfl rfl⟩

/-- Registering a contract reaches the environment of the block, whose id the row takes. -/
lemma writes_of_registerContract {block : Int} {qualifiedId source : Value}
    (h : s.registerContract block qualifiedId source = .ok (id, s')) :
    Writes s (block ∈ s.blockIdsOf ·) s' := by
  simp only [registerContract, referencedBlock, bind_eq_ok, ensure_eq_ok, require_eq_ok,
    pure_eq_ok] at h
  obtain ⟨-, -, source, -, home, ⟨-, -, hplaced⟩, q, -, -, hfree, hs⟩ := h
  rw [← (Prod.mk.inj hs).2]
  refine ⟨.addContract ⟨_, home.environmentId, block, q, source⟩ home rfl hplaced rfl hfree,
    { Appends.refl s with contracts := List.prefix_append _ _ }, fun {other} hother =>
    ownedBy_eq rfl rfl rfl (filter_concat ?_) rfl rfl rfl rfl rfl⟩
  have howner : home.environmentId ≠ other := by
    rintro rfl
    exact hother (blockId_mem_of_block? hplaced)
  simpa using howner

/-- Recording an execution reaches the environment of the block, which has to be that of the
contract as well. -/
lemma writes_of_recordExecution {block contract : Int} {transactionId : Value}
    (h : s.recordExecution block contract transactionId = .ok (id, s')) :
    Writes s (block ∈ s.blockIdsOf ·) s' := by
  simp only [recordExecution, referencedBlock, bind_eq_ok, ensure_eq_ok, require_eq_ok, pure_eq_ok,
    Option.filter_eq_some_iff, decide_eq_true_eq] at h
  obtain ⟨tx, -, home, ⟨-, -, hplaced⟩, -, -, invoked, ⟨hknown, howned⟩, -, hfree, hs⟩ := h
  rw [← (Prod.mk.inj hs).2]
  exact ⟨.addExecution ⟨_, block, contract, tx⟩ home invoked rfl hplaced hknown howned hfree,
    { Appends.refl s with executions := List.prefix_append _ _ }, fun hother =>
    ownedBy_eq rfl rfl rfl rfl (filter_concat (by simpa using hother)) rfl rfl rfl rfl⟩

/-- A name that has passed its check is not blank. -/
lemma not_blank_of_name {field : String} {v : Value} {name : RawName}
    (h : Argument.name field v = .ok name) : ¬ name.IsBlank := by
  simp only [Argument.name, bind_eq_ok, ensure_eq_ok, pure_eq_ok] at h
  obtain ⟨given, -, -, hgiven, rfl⟩ := h
  exact hgiven

/-- Declaring a variable reaches the environment of the contract. -/
lemma writes_of_declareVariable {contract : Int} {key : Value}
    (h : s.declareVariable contract key = .ok (id, s')) :
    Writes s (contract ∈ s.contractIdsOf ·) s' := by
  simp only [declareVariable, referencedContract, bind_eq_ok, ensure_eq_ok, require_eq_ok,
    encoded_eq_ok, pure_eq_ok] at h
  obtain ⟨-, hkey, owner, ⟨-, -, hknown⟩, k, rfl, -, hfree, hs⟩ := h
  rw [← (Prod.mk.inj hs).2]
  exact ⟨.addVariable ⟨_, contract, k⟩ owner rfl hknown hfree (not_blank_of_name hkey),
    { Appends.refl s with vars := List.prefix_append _ _ }, fun hother =>
    ownedBy_eq rfl rfl rfl rfl rfl (filter_concat (by simpa using hother)) rfl rfl rfl⟩

/-- The owner of a variable is the contract that its row refers to. -/
lemma variableOwner?_eq_some {varId : Int} {declared : Variable} {owner : Contract} :
    s.variableOwner? varId = some (declared, owner) ↔
      s.variableWithId? varId = some declared ∧ s.contract? declared.contractId = some owner := by
  simp only [variableOwner?, Option.bind_eq_bind, Option.bind_eq_some_iff, Option.pure_def]
  grind

/-- Writing a variable reaches the environments of the variable and of the block, which are one. -/
lemma writes_of_recordVariableInstance {varId block execution : Int} {value : Value}
    (h : s.recordVariableInstance varId block execution value = .ok (id, s')) :
    Writes s (fun environment =>
      varId ∈ s.variableIdsOf environment ∨ block ∈ s.blockIdsOf environment) s' := by
  simp only [recordVariableInstance, ownedBlock, bind_eq_ok, ensure_eq_ok, require_eq_ok, pure_eq_ok,
    Option.filter_eq_some_iff, decide_eq_true_eq] at h
  obtain ⟨v, -, -, -, ⟨declared, owner⟩, hvar, home, ⟨-, -, hplaced, howned⟩, -, -, writer,
    ⟨hwritten, hhere⟩, -, hown, hs⟩ := h
  obtain ⟨hknown, hdeclares⟩ := variableOwner?_eq_some.1 hvar
  rw [← (Prod.mk.inj hs).2]
  exact ⟨.addInstance ⟨_, varId, block, home.height, execution, v⟩ declared owner home writer rfl
    hknown hdeclares hplaced howned rfl hwritten hhere hown,
    { Appends.refl s with instances := List.prefix_append _ _ }, fun hother =>
    ownedBy_eq rfl rfl rfl rfl rfl rfl (filter_concat (by simpa using hother)) rfl rfl⟩

/-- Declaring a map reaches the environment of the contract. -/
lemma writes_of_declareMap {contract : Int} {name : Value}
    (h : s.declareMap contract name = .ok (id, s')) :
    Writes s (contract ∈ s.contractIdsOf ·) s' := by
  simp only [declareMap, referencedContract, bind_eq_ok, ensure_eq_ok, require_eq_ok,
    encoded_eq_ok, pure_eq_ok] at h
  obtain ⟨-, hname, owner, ⟨-, -, hknown⟩, n, rfl, -, hfree, hs⟩ := h
  rw [← (Prod.mk.inj hs).2]
  exact ⟨.addMap ⟨_, contract, n⟩ owner rfl hknown hfree (not_blank_of_name hname),
    { Appends.refl s with maps := List.prefix_append _ _ }, fun hother =>
    ownedBy_eq rfl rfl rfl rfl rfl rfl rfl (filter_concat (by simpa using hother)) rfl⟩

/-- The owner of a map is the contract that its row refers to. -/
lemma mapOwner?_eq_some {mapId : Int} {declared : ContractMap} {owner : Contract} :
    s.mapOwner? mapId = some (declared, owner) ↔
      s.map? mapId = some declared ∧ s.contract? declared.contractId = some owner := by
  simp only [mapOwner?, Option.bind_eq_bind, Option.bind_eq_some_iff, Option.pure_def]
  grind

/-- Putting an entry of a map reaches the environments of the map and of the block, which are one.
-/
lemma writes_of_putMapEntry {mapId block : Int} {keyHash value : Value}
    (h : s.putMapEntry mapId block keyHash value = .ok (id, s')) :
    Writes s (fun environment =>
      mapId ∈ s.mapIdsOf environment ∨ block ∈ s.blockIdsOf environment) s' := by
  simp only [putMapEntry, ownedBlock, bind_eq_ok, ensure_eq_ok, require_eq_ok, pure_eq_ok,
    Option.filter_eq_some_iff, decide_eq_true_eq] at h
  obtain ⟨k, -, v, -, -, -, ⟨declared, owner⟩, hmap, home, ⟨-, -, hplaced, howned⟩, -, hfree, hs⟩ := h
  obtain ⟨hknown, hdeclares⟩ := mapOwner?_eq_some.1 hmap
  rw [← (Prod.mk.inj hs).2]
  exact ⟨.addMapEntry ⟨_, mapId, block, home.height, k, v⟩ declared owner home rfl hknown hdeclares
    hplaced howned rfl hfree,
    { Appends.refl s with mapEntries := List.prefix_append _ _ }, fun hother =>
    ownedBy_eq rfl rfl rfl rfl rfl rfl rfl rfl (filter_concat (by simpa using hother))⟩

end Store

/-! ## Payloads -/

namespace Ingestion

open Store

variable {t t' : Ingestion}

/-- The write of an entry in a payload adds a row. -/
lemma additions_of_writeEntry {write : EntryWrite} (h : t.writeEntry write = .ok t') :
    Additions t.store t'.store := by
  simp only [writeEntry, bind_eq_ok, pure_eq_ok] at h
  obtain ⟨⟨id, store⟩, hput, rfl⟩ := h
  exact (writes_of_putEntry hput).additions

/-- A deployment in a payload adds a row. -/
lemma additions_of_deploy {deployment : Deployment} (h : t.deploy deployment = .ok t') :
    Additions t.store t'.store := by
  simp only [deploy, bind_eq_ok, pure_eq_ok] at h
  obtain ⟨⟨id, store⟩, hregister, rfl⟩ := h
  exact (writes_of_registerContract hregister).additions

/-- An invocation in a payload adds a row.  Looking its contract up adds none. -/
lemma additions_of_invoke {invocation : Invocation} (h : t.invoke invocation = .ok t') :
    Additions t.store t'.store := by
  simp only [invoke, bind_eq_ok, pure_eq_ok] at h
  obtain ⟨⟨contract, t₁⟩, hcontract, ⟨id, store⟩, hrecord, rfl⟩ := h
  rw [← store_of_contract hcontract]
  exact (writes_of_recordExecution hrecord).additions

/-- A variable that is asked for is there already or is declared. -/
lemma additions_of_variableId {contract id : Int} {key : String} {store : Store}
    (h : t.variableId contract key = .ok (id, store)) : Additions t.store store := by
  simp only [variableId, bind_eq_ok] at h
  obtain ⟨found, -, h⟩ := h
  cases found with
  | some id' =>
    simp only [pure_eq_ok, Prod.mk.injEq] at h
    rw [h.2]
    exact .refl _
  | none => exact (writes_of_declareVariable h).additions

/-- The write of a variable in a payload declares the variable if it has to, and then adds its own
row. -/
lemma additions_of_writeVariable {write : VariableWrite} (h : t.writeVariable write = .ok t') :
    Additions t.store t'.store := by
  simp only [writeVariable, bind_eq_ok, pure_eq_ok] at h
  obtain ⟨execution, -, ⟨contract, t₁⟩, hcontract, ⟨id, store⟩, hid, ⟨_, store'⟩, hrecord, rfl⟩ := h
  rw [← store_of_contract hcontract]
  exact (additions_of_variableId hid).trans (writes_of_recordVariableInstance hrecord).additions

/-- A map that is asked for is there already or is declared. -/
lemma additions_of_mapId {contract id : Int} {name : String} {store : Store}
    (h : t.mapId contract name = .ok (id, store)) : Additions t.store store := by
  simp only [mapId, bind_eq_ok] at h
  obtain ⟨found, -, h⟩ := h
  cases found with
  | some id' =>
    simp only [pure_eq_ok, Prod.mk.injEq] at h
    rw [h.2]
    exact .refl _
  | none => exact (writes_of_declareMap h).additions

/-- The write of a map in a payload declares the map if it has to, and then adds its own row. -/
lemma additions_of_writeMap {write : MapWrite} (h : t.writeMap write = .ok t') :
    Additions t.store t'.store := by
  simp only [writeMap, bind_eq_ok, pure_eq_ok] at h
  obtain ⟨⟨contract, t₁⟩, hcontract, ⟨id, store⟩, hid, ⟨_, store'⟩, hput, rfl⟩ := h
  rw [← store_of_contract hcontract]
  exact (additions_of_mapId hid).trans (writes_of_putMapEntry hput).additions

/-- The parts of one kind, one after the other. -/
lemma additions_of_foldlM {γ : Type} {apply : Ingestion → γ → Except Error Ingestion}
    (happly : ∀ {t t' part}, apply t part = .ok t' → Additions t.store t'.store) {parts : List γ}
    (h : parts.foldlM apply t = .ok t') : Additions t.store t'.store := by
  induction parts generalizing t with
  | nil =>
    simp only [List.foldlM_nil, pure_eq_ok] at h
    rw [h]
    exact .refl _
  | cons part rest ih =>
    simp only [List.foldlM_cons, bind_eq_ok] at h
    obtain ⟨t₁, hpart, hrest⟩ := h
    exact (happly hpart).trans (ih hrest)

end Ingestion

namespace Store

variable {s s' : Store} {id : Int}

/-- A payload adds its block and then its parts, kind after kind. -/
lemma additions_of_applyPayload {payload : BlockPayload} (h : s.applyPayload payload = .ok (id, s')) :
    Additions s s' := by
  simp only [applyPayload, bind_eq_ok, pure_eq_ok] at h
  obtain ⟨environment, -, ⟨block, store⟩, hblock, t₁, hentries, t₂, hcontracts, t₃, hexecutions, t₄,
    hvars, t₅, hmaps, hs⟩ := h
  rw [← (Prod.mk.inj hs).2]
  have h₀ : Additions s store := (writes_of_recordBlock hblock).additions
  have h₁ : Additions store t₁.store :=
    Ingestion.additions_of_foldlM Ingestion.additions_of_writeEntry hentries
  have h₂ := Ingestion.additions_of_foldlM Ingestion.additions_of_deploy hcontracts
  have h₃ := Ingestion.additions_of_foldlM Ingestion.additions_of_invoke hexecutions
  have h₄ := Ingestion.additions_of_foldlM Ingestion.additions_of_writeVariable hvars
  have h₅ := Ingestion.additions_of_foldlM Ingestion.additions_of_writeMap hmaps
  exact h₀.trans (h₁.trans (h₂.trans (h₃.trans (h₄.trans h₅))))

/-- A payload that has passed its check adds what it holds. -/
lemma additions_of_applyBlock {payload : Value} (h : s.applyBlock payload = .ok (id, s')) :
    Additions s s' := by
  obtain ⟨p, -, happly⟩ := bind_eq_ok.1 h
  exact additions_of_applyPayload happly

end Store

/-! ## Calls -/

/-- A call is addressed to an environment by its id, by the id of a block, contract, variable or map
that it owns, or by a payload that names it. -/
def Call.AddressedTo (s : Store) (environment : Int) : Call → Prop
  | dropEnvironment id => id = environment
  | recordBlock id _ _ _ => id = environment
  | putEntry block _ _ => block ∈ s.blockIdsOf environment
  | registerContract block _ _ => block ∈ s.blockIdsOf environment
  | recordExecution block contract _ =>
    block ∈ s.blockIdsOf environment ∨ contract ∈ s.contractIdsOf environment
  | declareVariable contract _ => contract ∈ s.contractIdsOf environment
  | recordVariableInstance varId block _ _ =>
    varId ∈ s.variableIdsOf environment ∨ block ∈ s.blockIdsOf environment
  | declareMap contract _ => contract ∈ s.contractIdsOf environment
  | putMapEntry mapId block _ _ =>
    mapId ∈ s.mapIdsOf environment ∨ block ∈ s.blockIdsOf environment
  | applyBlock raw => ∃ payload owner, BlockPayload.ofValue raw = .ok payload ∧
    s.resolve payload.environment = .ok owner ∧ owner.id = environment
  | _ => False

namespace Call

open Store

variable {s s' : Store} {answer : Json}

/-- A write answers with the id of its new row. -/
lemma exists_of_written {outcome : Except Error (Int × Store)}
    (h : written outcome = .ok (answer, s')) : ∃ id, answer = .int id ∧ outcome = .ok (id, s') := by
  obtain ⟨⟨id, store⟩, houtcome, hs⟩ := bind_eq_ok.1 h
  obtain ⟨rfl, rfl⟩ := Prod.mk.inj (pure_eq_ok.1 hs)
  exact ⟨id, rfl, houtcome⟩

/-- An accepted write has gone through. -/
lemma written_eq_ok {outcome : Except Error (Int × Store)} (h : written outcome = .ok (answer, s')) :
    ∃ id, outcome = .ok (id, s') := by
  obtain ⟨id, -, houtcome⟩ := exists_of_written h
  exact ⟨id, houtcome⟩

/-- A look-up leaves the store as it is. -/
lemma looked_eq_ok {α : Type} {toJson : α → Json} {outcome : Except Error α}
    (h : looked s toJson outcome = .ok (answer, s')) : s = s' := by
  obtain ⟨a, -, hs⟩ := bind_eq_ok.1 h
  exact (Prod.mk.inj (pure_eq_ok.1 hs)).2

/-- What an accepted call does: it creates or drops an environment, applies a payload, makes another
single write, or only reads.  A single write reaches the environments that the call is addressed
to. -/
inductive Effect (s : Store) : Store → Call → Prop
  | create {s' : Store} {name kind path : Value} :
    Writes s (· = nextId (s.environments.map (·.id))) s' →
      Effect s s' (.createEnvironment name kind path)
  | drop {s' : Store} {environment : Int} {removed : RowCounts} :
    s.dropEnvironment environment = .ok (removed, s') → Effect s s' (.dropEnvironment environment)
  | apply {s' : Store} {payload : Value} {id : Int} :
    s.applyBlock payload = .ok (id, s') → Effect s s' (.applyBlock payload)
  | write {s' : Store} {c : Call} : Writes s (c.AddressedTo s) s' → Effect s s' c
  | read {c : Call} : Effect s s c

/-- Every accepted call has the effect of its kind, call by call. -/
lemma effect_of_run {c : Call} (h : c.run s = .ok (answer, s')) : Effect s s' c := by
  cases c with
  | dropEnvironment environment =>
    obtain ⟨⟨removed, rest⟩, hdrop, hs⟩ := bind_eq_ok.1 h
    rw [← (Prod.mk.inj (pure_eq_ok.1 hs)).2]
    exact .drop hdrop
  | applyBlock payload =>
    obtain ⟨id, h⟩ := written_eq_ok h
    exact .apply h
  | createEnvironment =>
    obtain ⟨id, h⟩ := written_eq_ok h
    exact .create (writes_of_createEnvironment h)
  | recordBlock =>
    obtain ⟨id, h⟩ := written_eq_ok h
    exact .write (writes_of_recordBlock h)
  | putEntry =>
    obtain ⟨id, h⟩ := written_eq_ok h
    exact .write (writes_of_putEntry h)
  | registerContract =>
    obtain ⟨id, h⟩ := written_eq_ok h
    exact .write (writes_of_registerContract h)
  | recordExecution =>
    obtain ⟨id, h⟩ := written_eq_ok h
    exact .write ((writes_of_recordExecution h).mono .inl)
  | declareVariable =>
    obtain ⟨id, h⟩ := written_eq_ok h
    exact .write (writes_of_declareVariable h)
  | recordVariableInstance =>
    obtain ⟨id, h⟩ := written_eq_ok h
    exact .write (writes_of_recordVariableInstance h)
  | declareMap =>
    obtain ⟨id, h⟩ := written_eq_ok h
    exact .write (writes_of_declareMap h)
  | putMapEntry =>
    obtain ⟨id, h⟩ := written_eq_ok h
    exact .write (writes_of_putMapEntry h)
  -- the calls that are left only read
  | listEnvironments =>
    rw [(Prod.mk.inj (Except.ok.inj h)).2]
    exact .read
  | _ =>
    rw [looked_eq_ok h]
    exact .read

/-- An accepted call makes a number of changes, none if it only reads. -/
theorem changes_of_run {c : Call} (h : c.run s = .ok (answer, s')) : Changes s s' := by
  cases effect_of_run h with
  | create hwrites => exact .single hwrites.change
  | drop hdrop => exact .single (change_of_dropEnvironment hdrop)
  | apply happly => exact (additions_of_applyBlock happly).changes
  | write hwrites => exact .single hwrites.change
  | read => exact .refl

end Call

/-- What every change keeps is kept by any number of them. -/
theorem Store.keep_of_changes {P : Store → Prop} (hchange : ∀ {s s'}, Change s s' → P s → P s')
    {s s' : Store} (h : Changes s s') (hs : P s) : P s' := by
  induction h with
  | refl => exact hs
  | tail _ hlast ih => exact hchange hlast ih

/-- What holds of the empty store and is kept by every change holds of every reachable store. -/
theorem Store.Reachable.induct {P : Store → Prop} (hempty : P Store.empty)
    (hchange : ∀ {s s'}, Change s s' → P s → P s') {s : Store} (h : s.Reachable) : P s := by
  induction h with
  | empty => exact hempty
  | call c _ hrun ih => exact keep_of_changes hchange (Call.changes_of_run hrun) ih

end ReplayLedger
