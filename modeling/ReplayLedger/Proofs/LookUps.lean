import ReplayLedger.Proofs.EntryPatch
import ReplayLedger.Proofs.Refusals
import ReplayLedger.Proofs.Watermark

/-!
# Look-ups agree

A row can be asked for in several ways: by its id, by the key that it has under its owner, and in the
list of all that its owner has.  Every one of these is a query of its own, and some give the first row
that they come upon.  They agree nevertheless (`Store.LookUpsAgree`), in every reachable database, so
also after rows have gone with their environment or with an aborted transaction and their ids have been
used again.

The reason is in two invariants.  Ids and keys are unique, so a query for one row finds it wherever it
stands in its table (`Store.Consistent`).  And heights rise along the blocks of an environment, so its
blocks are stored in the order in which they are listed, and a range of heights is a section of them
(`Store.Reachable.listBlocks_eq`).

Main statement: `Database.Reachable.lookUps_agree`.
-/

namespace ReplayLedger

/-- A rising list falls apart at any number into what is not above it and what is. -/
lemma filter_le_append_filter_lt {α : Type} {key : α → Int} {rows : List α}
    (hrise : (rows.map key).Pairwise (· < ·)) (n : Int) :
    rows.filter (fun row => key row ≤ n) ++ rows.filter (fun row => n < key row) = rows := by
  induction rows with
  | nil => rfl
  | cons first rest ih =>
    obtain ⟨hfirst, hrest⟩ := List.pairwise_cons.1 hrise
    by_cases hle : key first ≤ n
    · have hnot : ¬ n < key first := Int.not_lt.2 hle
      simpa [hle, hnot] using ih hrest
    · -- all that follows lies above the number too
      have hgt : ∀ row ∈ first :: rest, n < key row := by
        intro row hrow
        rcases List.mem_cons.1 hrow with rfl | hrow
        · exact Int.not_le.1 hle
        · exact Int.lt_trans (Int.not_le.1 hle) (hfirst _ (List.mem_map_of_mem hrow))
      have hlower : (first :: rest).filter (fun row => key row ≤ n) = [] :=
        List.filter_eq_nil_iff.2 fun row hrow => by simpa using hgt row hrow
      have hupper : (first :: rest).filter (fun row => n < key row) = first :: rest :=
        List.filter_eq_self.2 fun row hrow => by simpa using hgt row hrow
      rw [hlower, hupper, List.nil_append]

/-- A height lies between two bounds, each of which may be open. -/
def Between (start stop : Option Int) (height : Int) : Prop :=
  (∀ n ∈ start, n ≤ height) ∧ ∀ n ∈ stop, height ≤ n

instance (start stop : Option Int) (height : Int) : Decidable (Between start stop height) :=
  inferInstanceAs (Decidable (_ ∧ _))

/-- A bound that a query can have: an open one, or an integer that the database can hold. -/
def StorableBound (bound : Option Int) : Prop := ∀ n ∈ bound, Storable n

instance (bound : Option Int) : Decidable (StorableBound bound) :=
  inferInstanceAs (Decidable (∀ n ∈ bound, Storable n))

@[simp] lemma storableBound_none : StorableBound none := by simp [StorableBound]

/-- A bound that is given has to be in range. -/
@[simp] lemma storableBound_some {n : Int} : StorableBound (some n) ↔ Storable n := by
  simp [StorableBound]

namespace Store

variable {s : Store} {environment height : Int} {start stop : Option Int}

/-- The test of a listing decides whether a height lies between the bounds. -/
lemma withinBounds_eq_true : withinBounds start stop height = true ↔ Between start stop height := by
  cases start <;> cases stop <;> simp [withinBounds, Between]

/-- A bound is handed over to the database if it is open or in range. -/
lemma storableBound_eq_ok {bound : Option Int} {u : Unit} :
    storableBound bound = .ok u ↔ StorableBound bound := by
  cases bound <;> simp [storableBound]

/-- A height between two bounds lies at or below a cut if the cut is the upper bound. -/
lemma between_and_le_iff {middle : Int} (hstop : ∀ n ∈ stop, middle < n) :
    Between start (some middle) height ↔ height ≤ middle ∧ Between start stop height := by
  constructor
  · rintro ⟨hlower, hupper⟩
    have hle : height ≤ middle := hupper middle rfl
    exact ⟨hle, hlower, fun n hn => Int.le_of_lt (Int.lt_of_le_of_lt hle (hstop n hn))⟩
  · rintro ⟨hle, hlower, -⟩
    exact ⟨hlower, fun n hn => Option.some.inj hn ▸ hle⟩

/-- A height between two bounds lies above a cut if the number after the cut is the lower bound. -/
lemma between_and_lt_iff {middle : Int} (hstart : ∀ n ∈ start, n ≤ middle) :
    Between (some (middle + 1)) stop height ↔ middle < height ∧ Between start stop height := by
  constructor
  · rintro ⟨hlower, hupper⟩
    have hlt : middle < height := hlower (middle + 1) rfl
    exact ⟨hlt, fun n hn => Int.le_of_lt (Int.lt_of_le_of_lt (hstart n hn) hlt), hupper⟩
  · rintro ⟨hlt, -, hupper⟩
    exact ⟨fun n hn => Option.some.inj hn ▸ hlt, hupper⟩

/-! ## What it means to agree -/

/-- A block is in the list of all blocks of an environment. -/
def ListsBlock (s : Store) (environment : Int) (row : Block) : Prop :=
  ∃ rows, s.listBlocks environment none none = .ok rows ∧ row ∈ rows

/-- A contract is in the list of all contracts of an environment. -/
def ListsContract (s : Store) (environment : Int) (row : Contract) : Prop :=
  ∃ rows, s.listContracts environment = .ok rows ∧ row ∈ rows

/-- A key is in the list of the entries of a block, with a value. -/
def ListsEntry (s : Store) (block : Int) (key value : Bytes) : Prop :=
  ∃ rows, s.listEntries block = .ok rows ∧ (key, value) ∈ rows

/-- The list of environments and what references stand for. -/
structure EnvironmentsAgree (s : Store) : Prop where
  listed {row : Environment} : row ∈ s.listEnvironments ↔ row ∈ s.environments
  ascending : (s.listEnvironments.map (·.id)).Pairwise (· < ·)
  /-- A reference stands for the environment in the list that has the id, or the name. -/
  resolved {ref : Reference} {row : Environment} :
    s.resolve ref = .ok row ↔ row ∈ s.listEnvironments ∧ ref.Denotes row
  /-- So each one in the list is found by its id and by its name. -/
  found {row : Environment} (h : row ∈ s.listEnvironments) :
    s.resolve (.id row.id) = .ok row ∧ s.resolve (.name row.name) = .ok row

/-- The lists of blocks and the queries for one block. -/
structure BlocksAgree (s : Store) : Prop where
  listed {environment : Int} {row : Block} :
    s.ListsBlock environment row ↔ row ∈ s.blocks ∧ row.environmentId = environment
  byHeight {environment height : Int} {row : Block} :
    s.getBlock environment height = .ok row ↔ s.ListsBlock environment row ∧ row.height = height
  byHash {environment : Int} {indexHash : Value} {row : Block} :
    s.getBlockByHash environment indexHash = .ok row ↔
      s.ListsBlock environment row ∧ indexHash.bytes? = some row.indexHash
  byId {id : Int} {row : Block} :
    s.getBlockById id = .ok row ↔ s.ListsBlock row.environmentId row ∧ row.id = id
  /-- Between two bounds, those of all blocks are listed that lie between them, at rising heights. -/
  range {environment : Int} {start stop : Option Int} (owner : Storable environment)
    (lower : StorableBound start) (upper : StorableBound stop) :
    ∃ all part, s.listBlocks environment none none = .ok all ∧
      s.listBlocks environment start stop = .ok part ∧
      part = all.filter (fun row => Between start stop row.height) ∧
      (part.map (·.height)).Pairwise (· < ·)
  /-- A range is the ranges up to some height and above it, one after the other. -/
  joined {environment middle : Int} {start stop : Option Int} (owner : Storable environment)
    (lower : StorableBound start) (upper : StorableBound stop) (cut : Storable middle)
    (next : Storable (middle + 1)) (above : ∀ n ∈ start, n ≤ middle) (below : ∀ n ∈ stop, middle < n) :
    ∃ part rest, s.listBlocks environment start (some middle) = .ok part ∧
      s.listBlocks environment (some (middle + 1)) stop = .ok rest ∧
      s.listBlocks environment start stop = .ok (part ++ rest)

/-- The list of contracts and the queries for one contract. -/
structure ContractsAgree (s : Store) : Prop where
  listed {environment : Int} {row : Contract} :
    s.ListsContract environment row ↔ row ∈ s.contracts ∧ row.environmentId = environment
  byName {qualifiedId : String} {environment : Int} {row : Contract} :
    s.getContract qualifiedId environment = .ok row ↔
      s.ListsContract environment row ∧ row.qualifiedId = qualifiedId
  byId {id : Int} {row : Contract} :
    s.getContractById id = .ok row ↔ s.ListsContract row.environmentId row ∧ row.id = id
  ascending {environment : Int} (owner : Storable environment) :
    ∃ rows, s.listContracts environment = .ok rows ∧ (rows.map (·.id)).Pairwise (· < ·)

/-- The search for what a contract declares, and the query for it by its id. -/
structure DeclarationsAgree (s : Store) : Prop where
  variableById {id : Int} {row : Variable} :
    s.getVariable id = .ok row ↔ row ∈ s.vars ∧ row.id = id
  variableFound {contract id : Int} {key : String} :
    s.findVariable contract key = .ok (some id) ↔ s.getVariable id = .ok ⟨id, contract, key⟩
  variableSought {contract : Int} (owner : Storable contract) (key : String) :
    ∃ found, s.findVariable contract key = .ok found
  mapById {id : Int} {row : ContractMap} : s.getMap id = .ok row ↔ row ∈ s.maps ∧ row.id = id
  mapFound {contract id : Int} {name : String} :
    s.findMap contract name = .ok (some id) ↔ s.getMap id = .ok ⟨id, contract, name⟩
  mapSought {contract : Int} (owner : Storable contract) (name : String) :
    ∃ found, s.findMap contract name = .ok found

/-- The list of entries and the query for one entry. -/
structure EntriesAgree (s : Store) : Prop where
  listed {block : Int} {key value : Bytes} : s.ListsEntry block key value ↔
    ∃ row ∈ s.entries, row.blockId = block ∧ row.keyHash = key ∧ row.value = value
  byKey {block : Int} {keyHash : Value} {value : Bytes} :
    s.getEntry block keyHash = .ok (some value) ↔
      ∃ key, keyHash.bytes? = some key ∧ s.ListsEntry block key value
  sought {block : Int} (home : Storable block) (key : Bytes) :
    ∃ found, s.getEntry block (.bytes key) = .ok found
  /-- Entries are listed for blocks that exist, and for no other, in ascending order of the keys. -/
  ascending {block : Int} {row : Block} (home : s.getBlockById block = .ok row) :
    ∃ rows, s.listEntries block = .ok rows ∧ (rows.map (·.1)).Pairwise (· < ·)

/-- All ways to ask for something come to the same. -/
structure LookUpsAgree (s : Store) : Prop where
  environments : s.EnvironmentsAgree
  blocks : s.BlocksAgree
  contracts : s.ContractsAgree
  declarations : s.DeclarationsAgree
  entries : s.EntriesAgree

/-! ## Queries for one row -/

namespace Consistent

variable {id : Int}

/-- No two blocks of an environment have one index hash, so the first that is found is the only one.
-/
lemma blockWithHash?_eq_some (hs : s.Consistent) {indexHash : Bytes} {row : Block} :
    s.blockWithHash? environment indexHash = some row ↔
      row ∈ s.blocks ∧ (row.environmentId, row.indexHash) = (environment, indexHash) :=
  find?_eq_some_iff_key hs.keys.blockHashes (by simp)

/-- No two entries of a block have one key, so the first that is found is the only one. -/
lemma entry?_eq_some (hs : s.Consistent) {block : Int} {key : Bytes} {row : StateEntry} :
    s.entry? block key = some row ↔ row ∈ s.entries ∧ (row.blockId, row.keyHash) = (block, key) :=
  find?_eq_some_iff_key hs.keys.entries (by simp)

/-- The owner of a block can be looked for. -/
lemma owner_of_block (hs : s.Consistent) {row : Block} (hrow : row ∈ s.blocks) :
    row.environmentId ∈ s.environments.map (·.id) := by
  obtain ⟨owner, howner, hid⟩ := hs.links.blocks row hrow
  exact hid ▸ List.mem_map_of_mem howner

/-- The owner of a contract can be looked for. -/
lemma owner_of_contract (hs : s.Consistent) {row : Contract} (hrow : row ∈ s.contracts) :
    row.environmentId ∈ s.environments.map (·.id) := by
  obtain ⟨owner, howner, -, -, hid, -, -⟩ := hs.links.contracts row hrow
  exact hid ▸ List.mem_map_of_mem howner

/-- A block is answered for an environment and a height if it is the block there. -/
lemma getBlock_eq_ok_iff (hs : s.Consistent) {row : Block} :
    s.getBlock environment height = .ok row ↔
      row ∈ s.blocks ∧ row.environmentId = environment ∧ row.height = height := by
  simp only [getBlock, bind_eq_ok, storableId_eq_ok, storable_eq_ok, require_eq_ok,
    hs.blockAt?_eq_some, Prod.mk.injEq]
  constructor
  · rintro ⟨-, -, -, -, hrow⟩
    exact hrow
  · rintro ⟨hrow, rfl, rfl⟩
    exact ⟨(), .inr (hs.owner_of_block hrow), (), (hs.heights row hrow).2, hrow, rfl, rfl⟩

/-- A block is answered for an environment and a hash if the hash is a byte string and its own. -/
lemma getBlockByHash_eq_ok_iff (hs : s.Consistent) {indexHash : Value} {row : Block} :
    s.getBlockByHash environment indexHash = .ok row ↔ row ∈ s.blocks ∧
      row.environmentId = environment ∧ indexHash.bytes? = some row.indexHash := by
  simp only [getBlockByHash, bind_eq_ok, Argument.bytes, require_eq_ok, storableId_eq_ok,
    hs.blockWithHash?_eq_some, Prod.mk.injEq]
  constructor
  · rintro ⟨hash, hbytes, -, -, hrow, rfl, rfl⟩
    exact ⟨hrow, rfl, hbytes⟩
  · rintro ⟨hrow, rfl, hbytes⟩
    exact ⟨_, hbytes, (), .inr (hs.owner_of_block hrow), hrow, rfl, rfl⟩

/-- A block is answered for an id if it has the id. -/
lemma getBlockById_eq_ok_iff (hs : s.Consistent) {row : Block} :
    s.getBlockById id = .ok row ↔ row ∈ s.blocks ∧ row.id = id :=
  require_row_eq_ok hs.block?_eq_some

/-- A contract is answered for an identifier and an environment if it is the one deployed there. -/
lemma getContract_eq_ok_iff (hs : s.Consistent) {qualifiedId : String} {row : Contract} :
    s.getContract qualifiedId environment = .ok row ↔
      row ∈ s.contracts ∧ row.environmentId = environment ∧ row.qualifiedId = qualifiedId := by
  rw [← Prod.mk.injEq]
  refine (require_of_storableId_eq_ok fun hfound => ?_).trans hs.contractNamed?_eq_some
  obtain ⟨hrow, hkey⟩ := hs.contractNamed?_eq_some.1 hfound
  exact (Prod.mk.inj hkey).1 ▸ hs.owner_of_contract hrow

/-- A contract is answered for an id if it has the id. -/
lemma getContractById_eq_ok_iff (hs : s.Consistent) {row : Contract} :
    s.getContractById id = .ok row ↔ row ∈ s.contracts ∧ row.id = id :=
  require_row_eq_ok hs.contract?_eq_some

/-- A variable is answered for an id if it has the id. -/
lemma getVariable_eq_ok_iff (hs : s.Consistent) {row : Variable} :
    s.getVariable id = .ok row ↔ row ∈ s.vars ∧ row.id = id :=
  require_row_eq_ok hs.variableWithId?_eq_some

/-- A map is answered for an id if it has the id. -/
lemma getMap_eq_ok_iff (hs : s.Consistent) {row : ContractMap} :
    s.getMap id = .ok row ↔ row ∈ s.maps ∧ row.id = id :=
  require_row_eq_ok hs.map?_eq_some

/-- A variable is found by its key if the contract has declared it.  The contract exists then, so
its id can be looked for. -/
lemma findVariable_eq_some_iff (hs : s.Consistent) {contract : Int} {key : String} :
    s.findVariable contract key = .ok (some id) ↔ (⟨id, contract, key⟩ : Variable) ∈ s.vars := by
  simp only [findVariable, bind_eq_ok, storableId_eq_ok, pure_eq_ok, Option.map_eq_some_iff,
    hs.variableNamed?_eq_some, Prod.mk.injEq]
  constructor
  · rintro ⟨-, -, row, ⟨hrow, rfl, rfl⟩, rfl⟩
    exact hrow
  · intro hrow
    obtain ⟨owner, howner, rfl⟩ := hs.links.vars _ hrow
    exact ⟨(), .inr (List.mem_map_of_mem howner), _, ⟨hrow, rfl, rfl⟩, rfl⟩

/-- A map is found by its name if the contract has declared it. -/
lemma findMap_eq_some_iff (hs : s.Consistent) {contract : Int} {name : String} :
    s.findMap contract name = .ok (some id) ↔ (⟨id, contract, name⟩ : ContractMap) ∈ s.maps := by
  simp only [findMap, bind_eq_ok, storableId_eq_ok, pure_eq_ok, Option.map_eq_some_iff,
    hs.mapNamed?_eq_some, Prod.mk.injEq]
  constructor
  · rintro ⟨-, -, row, ⟨hrow, rfl, rfl⟩, rfl⟩
    exact hrow
  · intro hrow
    obtain ⟨owner, howner, rfl⟩ := hs.links.maps _ hrow
    exact ⟨(), .inr (List.mem_map_of_mem howner), _, ⟨hrow, rfl, rfl⟩, rfl⟩

/-- A value is answered for a key if the block has an entry with both. -/
lemma getEntry_eq_some_iff (hs : s.Consistent) {block : Int} {keyHash : Value} {value : Bytes} :
    s.getEntry block keyHash = .ok (some value) ↔ ∃ key, keyHash.bytes? = some key ∧
      ∃ row ∈ s.entries, row.blockId = block ∧ row.keyHash = key ∧ row.value = value := by
  simp only [getEntry, bind_eq_ok, Argument.bytes, require_eq_ok, storableId_eq_ok, pure_eq_ok,
    Option.map_eq_some_iff, hs.entry?_eq_some, Prod.mk.injEq]
  constructor
  · rintro ⟨key, hbytes, -, -, row, ⟨hrow, hblock, hkey⟩, hvalue⟩
    exact ⟨key, hbytes, row, hrow, hblock, hkey, hvalue⟩
  · rintro ⟨key, hbytes, row, hrow, rfl, hkey, hvalue⟩
    obtain ⟨home, hhome, hid⟩ := hs.links.entries row hrow
    exact ⟨key, hbytes, (), .inr (hid ▸ List.mem_map_of_mem hhome), row, ⟨hrow, rfl, hkey⟩, hvalue⟩

/-! ## Lists -/

/-- Contracts are listed for the environment that they are deployed in. -/
lemma listsContract_iff (hs : s.Consistent) {row : Contract} :
    s.ListsContract environment row ↔ row ∈ s.contracts ∧ row.environmentId = environment := by
  simp only [ListsContract, listContracts, bind_eq_ok, storableId_eq_ok, pure_eq_ok]
  constructor
  · rintro ⟨rows, ⟨-, -, rfl⟩, hrow⟩
    simpa using hrow
  · rintro ⟨hrow, rfl⟩
    exact ⟨_, ⟨(), .inr (hs.owner_of_contract hrow), rfl⟩, by simpa using hrow⟩

/-- Entries are listed for the block that they belong to, with their keys and values. -/
lemma listsEntry_iff (hs : s.Consistent) {block : Int} {key value : Bytes} :
    s.ListsEntry block key value ↔
      ∃ row ∈ s.entries, row.blockId = block ∧ row.keyHash = key ∧ row.value = value := by
  have hmem : (key, value) ∈ Association.inOrder (s.entriesOf block) ↔
      ∃ row ∈ s.entries, row.blockId = block ∧ row.keyHash = key ∧ row.value = value := by
    rw [(Association.inOrder_perm _).mem_iff]
    simp [entriesOf, and_assoc]
  rw [← hmem]
  simp only [ListsEntry, listEntries, bind_eq_ok, hs.getBlockById_eq_ok_iff, pure_eq_ok]
  constructor
  · rintro ⟨rows, ⟨-, -, rfl⟩, hrow⟩
    exact hrow
  · intro hrow
    -- an entry that exists has a block that exists
    obtain ⟨row, hrow', rfl, -⟩ := hmem.1 hrow
    obtain ⟨home, hhome, hid⟩ := hs.links.entries row hrow'
    exact ⟨_, ⟨home, ⟨hhome, hid⟩, rfl⟩, hrow⟩

end Consistent

/-- The blocks of an environment are stored at rising heights. -/
lemma Reachable.heights_rise (hs : s.Reachable) (environment : Int) :
    ((s.ownedBy environment).blocks.map (·.height)).Pairwise (· < ·) := by
  rw [map_height_ownedBy]
  exact (hs.climbs environment).rise

/-- Blocks are stored in the order of their heights, so they are listed as they stand in the table. -/
lemma Reachable.listBlocks_eq (hs : s.Reachable) {rows : List Block} :
    s.listBlocks environment start stop = .ok rows ↔
      (Storable environment ∨ environment ∈ s.environments.map (·.id)) ∧ StorableBound start ∧
        StorableBound stop ∧
        rows = (s.ownedBy environment).blocks.filter fun row => Between start stop row.height := by
  have hsection : (s.blocks.filter fun row => row.environmentId = environment ∧
      withinBounds start stop row.height) =
      (s.ownedBy environment).blocks.filter fun row => Between start stop row.height := by
    unfold ownedBy
    rw [List.filter_filter]
    refine List.filter_congr fun row _ => ?_
    simp [withinBounds_eq_true, Bool.and_comm]
  have hsorted : ((s.ownedBy environment).blocks.filter fun row =>
      Between start stop row.height).Pairwise fun a b => decide (a.height ≤ b.height) = true := by
    have hrise := List.pairwise_map.1 (hs.heights_rise environment)
    exact (hrise.imp fun hlt => decide_eq_true (Int.le_of_lt hlt)).filter _
  simp only [listBlocks, bind_eq_ok, storableId_eq_ok, storableBound_eq_ok, pure_eq_ok, hsection,
    List.mergeSort_of_pairwise hsorted]
  constructor
  · rintro ⟨-, howner, -, hstart, -, hstop, rfl⟩
    exact ⟨howner, hstart, hstop, rfl⟩
  · rintro ⟨howner, hstart, hstop, rfl⟩
    exact ⟨(), howner, (), hstart, (), hstop, rfl⟩

/-- An open range takes in all blocks. -/
lemma filter_between_none (rows : List Block) :
    rows.filter (fun row => Between none none row.height) = rows :=
  List.filter_eq_self.2 fun row _ => by simp [Between]

/-- Blocks are listed for the environment that they belong to. -/
lemma Reachable.listsBlock_iff (hs : s.Reachable) {row : Block} :
    s.ListsBlock environment row ↔ row ∈ s.blocks ∧ row.environmentId = environment := by
  simp only [ListsBlock, hs.listBlocks_eq, filter_between_none]
  constructor
  · rintro ⟨rows, ⟨-, -, -, rfl⟩, hrow⟩
    simpa [ownedBy] using hrow
  · rintro ⟨hrow, rfl⟩
    have howner := hs.consistent.owner_of_block hrow
    refine ⟨_, ⟨.inr howner, storableBound_none, storableBound_none, rfl⟩, ?_⟩
    simpa [ownedBy] using hrow

/-! ## Agreement -/

/-- References denote at most one environment, since ids and names are unique. -/
lemma Consistent.environmentsAgree (hs : s.Consistent) : s.EnvironmentsAgree where
  listed := Iff.rfl
  ascending := hs.ids.environments
  resolved := hs.resolve_eq_ok_iff
  found h := ⟨hs.resolve_eq_ok_iff.2 ⟨h, rfl⟩, hs.resolve_eq_ok_iff.2 ⟨h, rfl⟩⟩

/-- Ranges are sections of one rising list, so two of them that meet join to one. -/
lemma Reachable.blocksAgree (hs : s.Reachable) : s.BlocksAgree where
  listed := hs.listsBlock_iff
  byHeight {environment height row} := by
    rw [hs.listsBlock_iff, and_assoc]
    exact hs.consistent.getBlock_eq_ok_iff
  byHash {environment indexHash row} := by
    rw [hs.listsBlock_iff, and_assoc]
    exact hs.consistent.getBlockByHash_eq_ok_iff
  byId {id row} := by
    rw [hs.listsBlock_iff, and_iff_left rfl]
    exact hs.consistent.getBlockById_eq_ok_iff
  range owner lower upper := by
    refine ⟨_, _, hs.listBlocks_eq.2 ⟨.inl owner, storableBound_none, storableBound_none, rfl⟩,
      hs.listBlocks_eq.2 ⟨.inl owner, lower, upper, rfl⟩, by rw [filter_between_none], ?_⟩
    exact rise_filter _ (hs.heights_rise _)
  joined {environment middle start stop} owner lower upper cut next above below := by
    refine ⟨_, _,
      hs.listBlocks_eq.2 ⟨.inl owner, lower, storableBound_some.2 cut, rfl⟩,
      hs.listBlocks_eq.2 ⟨.inl owner, storableBound_some.2 next, upper, rfl⟩,
      hs.listBlocks_eq.2 ⟨.inl owner, lower, upper, ?_⟩⟩
    have hrise : (((s.ownedBy environment).blocks.filter fun row =>
        Between start stop row.height).map (·.height)).Pairwise (· < ·) :=
      rise_filter _ (hs.heights_rise environment)
    have hparts := filter_le_append_filter_lt hrise middle
    simpa [List.filter_filter, between_and_le_iff below, between_and_lt_iff above] using hparts

/-- A contract in the list is the one that each query for it finds. -/
lemma Consistent.contractsAgree (hs : s.Consistent) : s.ContractsAgree where
  listed := hs.listsContract_iff
  byName {qualifiedId environment row} := by
    rw [hs.listsContract_iff, and_assoc]
    exact hs.getContract_eq_ok_iff
  byId {id row} := by
    rw [hs.listsContract_iff, and_iff_left rfl]
    exact hs.getContractById_eq_ok_iff
  ascending owner := by
    refine ⟨_, bind_eq_ok.2 ⟨(), storableId_eq_ok.2 (.inl owner), rfl⟩, ?_⟩
    exact rise_filter _ hs.ids.contracts

/-- What is found by a name under a contract is what its id stands for. -/
lemma Consistent.declarationsAgree (hs : s.Consistent) : s.DeclarationsAgree where
  variableById := hs.getVariable_eq_ok_iff
  variableFound {contract id key} := by
    rw [hs.findVariable_eq_some_iff, hs.getVariable_eq_ok_iff, and_iff_left rfl]
  variableSought owner key := ⟨_, bind_eq_ok.2 ⟨(), storableId_eq_ok.2 (.inl owner), rfl⟩⟩
  mapById := hs.getMap_eq_ok_iff
  mapFound {contract id name} := by
    rw [hs.findMap_eq_some_iff, hs.getMap_eq_ok_iff, and_iff_left rfl]
  mapSought owner name := ⟨_, bind_eq_ok.2 ⟨(), storableId_eq_ok.2 (.inl owner), rfl⟩⟩

/-- The entries of a block have distinct keys, so sorting them by their keys leaves no choice. -/
lemma Consistent.entriesAgree (hs : s.Consistent) : s.EntriesAgree where
  listed := hs.listsEntry_iff
  byKey {block keyHash value} := by
    simp only [hs.listsEntry_iff]
    exact hs.getEntry_eq_some_iff
  sought home key :=
    ⟨_, bind_eq_ok.2 ⟨key, bytes_bytes, bind_eq_ok.2 ⟨(), storableId_eq_ok.2 (.inl home), rfl⟩⟩⟩
  ascending home := by
    obtain ⟨hrow, rfl⟩ := hs.getBlockById_eq_ok_iff.1 home
    refine ⟨_, hs.listEntries_of_mem hrow, List.pairwise_map.2 ?_⟩
    exact ascending_mergeSort Bytes.lt_iff (hs.nodup_keys_entriesOf _)

end Store

/-- In every reachable database, all ways to ask for an environment, a block, a contract, a declaration
or an entry come to the same. -/
theorem Database.Reachable.lookUps_agree {db : Database} (hdb : db.Reachable) :
    db.tables.LookUpsAgree := by
  have hstore := hdb.stores.1
  have hconsistent := hstore.consistent
  exact ⟨hconsistent.environmentsAgree, hstore.blocksAgree, hconsistent.contractsAgree,
    hconsistent.declarationsAgree, hconsistent.entriesAgree⟩

/-- An environment is dropped, and its id and those of its rows are used again by another one, which
has blocks at three heights and an aborted one between them. -/
theorem Database.lookUps_agree_of_reused_ids :
    let payload (name : String) (height : Int) (key : UInt8) : Value :=
      .record [("environment", .text name), ("height", .int height), ("index_hash", .bytes [key]),
        ("trie_root_hash", .bytes [7]),
        ("entries", .list [.record [("key_hash", .bytes [key]), ("value", .bytes [])]]),
        ("contracts", .list [.record [("qualified_id", .text name), ("source", .bytes [])]]),
        ("maps", .list [.record [("contract", .text name), ("name", .text "m"),
          ("key_hash", .bytes [key]), ("value", .bytes [8])]])]
    let steps : List Step := [.call (.createEnvironment (.text "a") (.int 1) (.text "/a")),
      .call (.createEnvironment (.text "b") (.int 2) (.text "/b")),
      .call (.applyBlock (payload "b" 4 4)), .call (.dropEnvironment 2),
      .call (.createEnvironment (.text "c") (.int 0) (.text "/c")),
      .call (.applyBlock (payload "c" 3 4)),
      .transaction [.call (.recordBlock 2 (.int 5) (.bytes [5]) (.bytes [7]))] true,
      .call (.recordBlock 2 (.int 6) (.bytes [5]) (.bytes [7])),
      .call (.recordBlock 2 (.int 8) (.bytes [8]) (.bytes [7]))]
    let s : Store := (Step.runAll {} steps).2.tables
    s.LookUpsAgree ∧ s.resolve (.name "c") = s.resolve (.id 2) ∧
      (∃ all, s.listBlocks 2 none none = .ok all ∧ ⟨2, 2, 6, [5], [7]⟩ ∈ all) ∧
      s.getBlock 2 6 = .ok ⟨2, 2, 6, [5], [7]⟩ ∧
      s.getBlockByHash 2 (.bytes [5]) = .ok ⟨2, 2, 6, [5], [7]⟩ ∧
      (∃ part rest, s.listBlocks 2 (some 3) (some 6) = .ok part ∧
        s.listBlocks 2 (some 7) (some 9) = .ok rest ∧
        s.listBlocks 2 (some 3) (some 9) = .ok (part ++ rest)) ∧
      s.getContract "c" 2 = .ok ⟨1, 2, 1, "c", []⟩ ∧ s.findMap 1 "m" = .ok (some 1) ∧
      s.getEntry 1 (.bytes [4]) = .ok (some []) := by
  intro payload steps s
  have hdb : (Step.runAll {} steps).2.Reachable :=
    Step.reachable_runAll (.new false) steps (by decide)
  have hagree : s.LookUpsAgree := hdb.lookUps_agree
  have hblock : s.getBlockById 2 = .ok ⟨2, 2, 6, [5], [7]⟩ := by decide +kernel
  have hcontract : s.getContractById 1 = .ok ⟨1, 2, 1, "c", []⟩ := by decide +kernel
  have hmap : s.getMap 1 = .ok ⟨1, 1, "m"⟩ := by decide +kernel
  have hentry : ⟨1, 1, [4], []⟩ ∈ s.entries := by decide +kernel
  have hrow : (⟨2, "c", .none, "/c", some 8⟩ : Environment) ∈ s.listEnvironments := by
    decide +kernel
  obtain ⟨hid, hname⟩ := hagree.environments.found hrow
  obtain ⟨hlisted, -⟩ := hagree.blocks.byId.1 hblock
  obtain ⟨hdeployed, -⟩ := hagree.contracts.byId.1 hcontract
  refine ⟨hagree, hname.trans hid.symm, hlisted, hagree.blocks.byHeight.2 ⟨hlisted, rfl⟩,
    hagree.blocks.byHash.2 ⟨hlisted, rfl⟩, ?_, hagree.contracts.byName.2 ⟨hdeployed, rfl⟩,
    hagree.declarations.mapFound.2 hmap, ?_⟩
  · exact hagree.blocks.joined (by decide) (by decide) (by decide) (by decide) (by decide) (by decide)
      (by decide)
  · exact hagree.entries.byKey.2 ⟨[4], rfl, hagree.entries.listed.2 ⟨_, hentry, rfl, rfl, rfl⟩⟩

end ReplayLedger
