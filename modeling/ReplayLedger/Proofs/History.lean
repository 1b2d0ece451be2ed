import ReplayLedger.Proofs.Views

/-!
# The history of an environment

The *history* of an environment says what its rows say without ids: it is the views of all tables
together, and the height that the environment has reached.  Every accepted write adds to the history
of one environment and to no other, and dropping an environment leaves the histories of the others as
they are.
-/

namespace ReplayLedger

/-- What an environment has recorded, table by table and in the order of insertion.  A write comes
with the height of its block. -/
@[ext]
structure History where
  maxHeight : Option Int := none
  blocks : List BlockFacts := []
  entries : List (Int × EntryWrite) := []
  contracts : List (Int × Deployment) := []
  executions : List (Int × Invocation) := []
  vars : List VariableSlot := []
  varWrites : List (Int × VariableWrite) := []
  maps : List MapName := []
  mapWrites : List (Int × MapWrite) := []
  deriving DecidableEq, Repr, Inhabited

namespace History

/-- The keys of the entries, with the heights of their blocks. -/
def entryKeys (history : History) : List (Int × Bytes) :=
  history.entries.map fun written => (written.1, written.2.keyHash)

/-- The identifiers of the contracts. -/
def contractNames (history : History) : List String :=
  history.contracts.map fun written => written.2.qualifiedId

/-- The keys of maps that were written, with the heights of the blocks. -/
def mapKeys (history : History) : List (Int × MapSlot) :=
  history.mapWrites.map fun written => (written.1, written.2.slot)

end History

namespace Store

/-- The history of an environment. -/
def history (s : Store) (environment : Int) : History where
  maxHeight := (s.environment? environment).bind (·.maxHeight)
  blocks := Table.blocks.view s environment
  entries := Table.entries.view s environment
  contracts := Table.contracts.view s environment
  executions := Table.executions.view s environment
  vars := Table.vars.view s environment
  varWrites := Table.instances.view s environment
  maps := Table.maps.view s environment
  mapWrites := Table.mapEntries.view s environment

variable {s s' : Store} {environment : Int}

/-! ## What each change adds -/

/-- What is found first is found first in a longer table. -/
lemma find?_concat {α : Type} {rows : List α} {p : α → Bool} {row new : α}
    (h : rows.find? p = some row) : (rows ++ [new]).find? p = some row := by
  rw [List.find?_append, h, Option.some_or]

/-- A new environment has an empty history, as it had before it existed. -/
lemma history_addEnvironment (hs : s.Consistent) {row : Environment}
    (idle : row.maxHeight = none) :
    history { s with environments := s.environments ++ [row] } environment =
      s.history environment := by
  have hext : Extends s { s with environments := s.environments ++ [row] } := ⟨id, id, id, id, id⟩
  have frame {α β : Type} {T : Table α β} := T.view_of_extends environment hs hext
  refine History.ext ?_ (frame rfl) (frame rfl) (frame rfl) (frame rfl) (frame rfl) (frame rfl)
    (frame rfl) (frame rfl)
  simp only [history, environment?, List.find?_append]
  cases hfind : s.environments.find? fun row => row.id = environment with
  | some owner => simp
  | none => by_cases hid : row.id = environment <;> simp [hid, idle]

/-- Setting the height of an environment shows on that environment only. -/
lemma environment?_setMaxHeight {updated : Int} {height : Option Int} :
    (s.setMaxHeight updated height).environment? environment =
      (s.environment? environment).map fun row =>
        if row.id = updated then { row with maxHeight := height } else row := by
  simp only [environment?, setMaxHeight, List.find?_map]
  congr 2
  funext row
  by_cases h : row.id = updated <;> simp [h]

/-- A new block is added to the history of its environment. -/
lemma history_addBlock (environment : Int) (hs : s.Consistent) (row : Block) {owner : Environment}
    (owned : s.environment? row.environmentId = some owner) :
    history { s.setMaxHeight row.environmentId (some row.height) with blocks := s.blocks ++ [row] }
      environment =
      { s.history environment with
        maxHeight :=
          if row.environmentId = environment then some row.height
          else (s.history environment).maxHeight
        blocks := (s.history environment).blocks ++
          under environment [(row.environmentId, ⟨row.height, row.indexHash, row.trieRoot⟩)] } := by
  have hext : Extends s { s.setMaxHeight row.environmentId (some row.height) with
      blocks := s.blocks ++ [row] } := ⟨find?_concat, id, id, id, id⟩
  have frame {α β : Type} {T : Table α β} := T.view_of_extends environment hs hext
  refine History.ext ?_ (Table.view_concat hs hext rfl rfl) (frame rfl) (frame rfl) (frame rfl)
    (frame rfl) (frame rfl) (frame rfl) (frame rfl)
  -- the height reached is the only part that is not a table
  show ((s.setMaxHeight _ _).environment? environment).bind (·.maxHeight) = _
  rw [environment?_setMaxHeight]
  by_cases hid : row.environmentId = environment
  · rw [if_pos hid, ← hid, owned]
    simp [(mem_of_environment? owned).2]
  · rw [if_neg hid]
    cases hfind : s.environment? environment with
    | none => simp [history, hfind]
    | some other =>
      have hother : other.id ≠ row.environmentId :=
        fun h => hid (h.symm.trans (mem_of_environment? hfind).2)
      simp [history, hfind, hother]

/-- A new entry is added to the history of the environment of its block. -/
lemma history_addEntry (hs : s.Consistent) {row : StateEntry} {home : Block}
    (placed : s.block? row.blockId = some home) :
    history { s with entries := s.entries ++ [row] } environment =
      { s.history environment with
        entries := (s.history environment).entries ++
          under environment [(home.environmentId, home.height, ⟨row.keyHash, row.value⟩)] } := by
  have hext : Extends s { s with entries := s.entries ++ [row] } := ⟨id, id, id, id, id⟩
  have frame {α β : Type} {T : Table α β} := T.view_of_extends environment hs hext
  have hform := Table.entries_form?.2 ⟨place?_eq_some.2 ⟨home, placed, rfl, rfl⟩, rfl⟩
  exact History.ext rfl (frame rfl) (Table.view_concat hs hext rfl hform) (frame rfl) (frame rfl)
    (frame rfl) (frame rfl) (frame rfl) (frame rfl)

/-- A new contract is added to the history of the environment of its block. -/
lemma history_addContract (hs : s.Consistent) {row : Contract} {home : Block}
    (placed : s.block? row.blockId = some home) :
    history { s with contracts := s.contracts ++ [row] } environment =
      { s.history environment with
        contracts := (s.history environment).contracts ++
          under environment [(home.environmentId, home.height, ⟨row.qualifiedId, row.source⟩)] } := by
  have hext : Extends s { s with contracts := s.contracts ++ [row] } := ⟨id, find?_concat, id, id, id⟩
  have frame {α β : Type} {T : Table α β} := T.view_of_extends environment hs hext
  have hform := Table.contracts_form?.2 ⟨place?_eq_some.2 ⟨home, placed, rfl, rfl⟩, rfl⟩
  exact History.ext rfl (frame rfl) (frame rfl) (Table.view_concat hs hext rfl hform) (frame rfl)
    (frame rfl) (frame rfl) (frame rfl) (frame rfl)

/-- A new execution is added to the history of the environment of its block. -/
lemma history_addExecution (hs : s.Consistent) {row : Execution} {home : Block} {invoked : Contract}
    (placed : s.block? row.blockId = some home) (known : s.contract? row.contractId = some invoked) :
    history { s with executions := s.executions ++ [row] } environment =
      { s.history environment with
        executions := (s.history environment).executions ++ under environment
          [(home.environmentId, home.height, ⟨invoked.qualifiedId, row.transactionId⟩)] } := by
  have hext : Extends s { s with executions := s.executions ++ [row] } :=
    ⟨id, id, find?_concat, id, id⟩
  have frame {α β : Type} {T : Table α β} := T.view_of_extends environment hs hext
  have hform := Table.executions_form?.2 ⟨place?_eq_some.2 ⟨home, placed, rfl, rfl⟩, _,
    contractName?_eq_some.2 ⟨invoked, known, rfl, rfl⟩, rfl⟩
  exact History.ext rfl (frame rfl) (frame rfl) (frame rfl) (Table.view_concat hs hext rfl hform)
    (frame rfl) (frame rfl) (frame rfl) (frame rfl)

/-- A new variable is added to the history of the environment of its contract. -/
lemma history_addVariable (hs : s.Consistent) {row : Variable} {owner : Contract}
    (known : s.contract? row.contractId = some owner) :
    history { s with vars := s.vars ++ [row] } environment =
      { s.history environment with
        vars := (s.history environment).vars ++
          under environment [(owner.environmentId, ⟨owner.qualifiedId, row.key⟩)] } := by
  have hext : Extends s { s with vars := s.vars ++ [row] } := ⟨id, id, id, find?_concat, id⟩
  have frame {α β : Type} {T : Table α β} := T.view_of_extends environment hs hext
  have hform : Table.vars.form? s row = some (owner.environmentId, ⟨owner.qualifiedId, row.key⟩) :=
    Table.vars_form?.2 ⟨contractName?_eq_some.2 ⟨owner, known, rfl, rfl⟩, rfl⟩
  exact History.ext rfl (frame rfl) (frame rfl) (frame rfl) (frame rfl)
    (Table.view_concat hs hext rfl hform) (frame rfl) (frame rfl) (frame rfl)

/-- A new instance is added to the history of the environment of its block. -/
lemma history_addInstance (hs : s.Consistent) {row : VariableInstance} {declared : Variable}
    {owner : Contract} {home : Block} {writer : Execution}
    (known : s.variableWithId? row.variableId = some declared)
    (declares : s.contract? declared.contractId = some owner)
    (placed : s.block? row.blockId = some home)
    (written : s.execution? row.executionId = some writer) :
    history { s with instances := s.instances ++ [row] } environment =
      { s.history environment with
        varWrites := (s.history environment).varWrites ++ under environment
          [(home.environmentId, home.height,
            ⟨owner.qualifiedId, declared.key, writer.transactionId, row.value⟩)] } := by
  have hext : Extends s { s with instances := s.instances ++ [row] } := ⟨id, id, id, id, id⟩
  have frame {α β : Type} {T : Table α β} := T.view_of_extends environment hs hext
  have hname : s.variableName? row.variableId =
      some (owner.environmentId, ⟨owner.qualifiedId, declared.key⟩) :=
    variableName?_eq_some.2
      ⟨declared, known, contractName?_eq_some.2 ⟨owner, declares, rfl, rfl⟩, rfl⟩
  have hform := Table.instances_form?.2 ⟨place?_eq_some.2 ⟨home, placed, rfl, rfl⟩, _, hname, _,
    transaction?_eq_some.2 ⟨writer, written, rfl⟩, rfl⟩
  exact History.ext rfl (frame rfl) (frame rfl) (frame rfl) (frame rfl) (frame rfl)
    (Table.view_concat hs hext rfl hform) (frame rfl) (frame rfl)

/-- A new map is added to the history of the environment of its contract. -/
lemma history_addMap (hs : s.Consistent) {row : ContractMap} {owner : Contract}
    (known : s.contract? row.contractId = some owner) :
    history { s with maps := s.maps ++ [row] } environment =
      { s.history environment with
        maps := (s.history environment).maps ++
          under environment [(owner.environmentId, ⟨owner.qualifiedId, row.name⟩)] } := by
  have hext : Extends s { s with maps := s.maps ++ [row] } := ⟨id, id, id, id, find?_concat⟩
  have frame {α β : Type} {T : Table α β} := T.view_of_extends environment hs hext
  have hform : Table.maps.form? s row = some (owner.environmentId, ⟨owner.qualifiedId, row.name⟩) :=
    Table.maps_form?.2 ⟨contractName?_eq_some.2 ⟨owner, known, rfl, rfl⟩, rfl⟩
  exact History.ext rfl (frame rfl) (frame rfl) (frame rfl) (frame rfl) (frame rfl) (frame rfl)
    (Table.view_concat hs hext rfl hform) (frame rfl)

/-- A new map entry is added to the history of the environment of its block. -/
lemma history_addMapEntry (hs : s.Consistent) {row : MapEntry} {declared : ContractMap}
    {owner : Contract} {home : Block} (known : s.map? row.mapId = some declared)
    (declares : s.contract? declared.contractId = some owner)
    (placed : s.block? row.blockId = some home) :
    history { s with mapEntries := s.mapEntries ++ [row] } environment =
      { s.history environment with
        mapWrites := (s.history environment).mapWrites ++ under environment
          [(home.environmentId, home.height,
            ⟨owner.qualifiedId, declared.name, row.keyHash, row.value⟩)] } := by
  have hext : Extends s { s with mapEntries := s.mapEntries ++ [row] } := ⟨id, id, id, id, id⟩
  have frame {α β : Type} {T : Table α β} := T.view_of_extends environment hs hext
  have hname : s.mapName? row.mapId =
      some (owner.environmentId, ⟨owner.qualifiedId, declared.name⟩) :=
    mapName?_eq_some.2 ⟨declared, known, contractName?_eq_some.2 ⟨owner, declares, rfl, rfl⟩, rfl⟩
  have hform := Table.mapEntries_form?.2 ⟨place?_eq_some.2 ⟨home, placed, rfl, rfl⟩, _, hname, rfl⟩
  exact History.ext rfl (frame rfl) (frame rfl) (frame rfl) (frame rfl) (frame rfl) (frame rfl)
    (frame rfl) (Table.view_concat hs hext rfl hform)

/-- Dropping an environment leaves the histories of the others as they are. -/
lemma history_drop {dropped : Int} (hs : s.Consistent) (hs' : (s.deleteOwned dropped).2.Consistent)
    (h : environment ≠ dropped) :
    (s.deleteOwned dropped).2.history environment = s.history environment := by
  have frame {α β : Type} {T : Table α β} := T.view_drop hs hs' h
  refine History.ext ?_ frame frame frame frame frame frame frame frame
  have hsame : (s.deleteOwned dropped).2.environment? environment = s.environment? environment := by
    rw [deleteOwned_eq, environment?, List.find?_filter, environment?]
    congr 1
    funext row
    by_cases hrow : row.id = environment
    · simp [hrow, h]
    · simp [hrow]
  simp only [history, hsame]

/-- An environment that does not exist has an empty history. -/
lemma history_of_absent (hs : s.Consistent) (h : ∀ owner ∈ s.environments, owner.id ≠ environment) :
    s.history environment = {} := by
  have absent {α β : Type} {T : Table α β} := T.view_eq_nil hs h
  refine History.ext ?_ absent absent absent absent absent absent absent absent
  have hnone : s.environment? environment = none :=
    List.find?_eq_none.2 fun owner howner => by simpa using h owner howner
  simp only [history, hnone, Option.bind_none]

/-- An environment that is dropped has an empty history. -/
lemma history_dropped (hs' : (s.deleteOwned environment).2.Consistent) :
    (s.deleteOwned environment).2.history environment = {} := by
  refine history_of_absent hs' fun owner howner => ?_
  rw [deleteOwned_eq] at howner
  simpa using (List.mem_filter.1 howner).2

end Store

end ReplayLedger
