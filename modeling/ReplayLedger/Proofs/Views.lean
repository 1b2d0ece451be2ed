import ReplayLedger.Proofs.Names

/-!
# Views of tables

A `Table` is one of the tables whose rows environments own, together with the *form* of a row: its
owner and its content, in names.  The *view* of an environment is the list of the contents that it
owns.

Forms do not change while a store grows (`Table.view_of_extends`), a new row adds its form to the view
of its owner and to no other (`Table.view_concat`), and dropping an environment leaves the views of
the others as they are (`Table.view_drop`).
-/

namespace ReplayLedger

/-- The rows of one owner. -/
def under {β : Type} (owner : Int) (rows : List (Int × β)) : List β :=
  (rows.filter fun row => row.1 = owner).map (·.2)

/-- What one owner has of two lists is what it has of each. -/
@[simp] lemma under_append {β : Type} {owner : Int} (rows rows' : List (Int × β)) :
    under owner (rows ++ rows') = under owner rows ++ under owner rows' := by
  simp [under]

/-- The first row is there if it has the owner. -/
lemma under_cons {β : Type} {owner owner' : Int} {b : β} (rows : List (Int × β)) :
    under owner ((owner', b) :: rows) =
      if owner' = owner then b :: under owner rows else under owner rows := by
  by_cases h : owner' = owner <;> simp [under, h]

/-- Of a single row all is there or nothing. -/
@[simp] lemma under_singleton {β : Type} {owner owner' : Int} {b : β} :
    under owner [(owner', b)] = if owner' = owner then [b] else [] := by
  by_cases h : owner' = owner <;> simp [under, h]

/-- An item is there if it stands with the owner. -/
@[simp] lemma mem_under {β : Type} {owner : Int} {rows : List (Int × β)} {b : β} :
    b ∈ under owner rows ↔ (owner, b) ∈ rows := by
  simp [under]

open Store in
/-- A table of rows that environments own.  The form of a row is its owner and its content. -/
structure Table (α β : Type) where
  rows : Store → List α
  form? : Store → α → Option (Int × β)
  /-- Forms do not change while a store grows. -/
  form?_of_extends {s s' : Store} {row : α} {x : Int × β} :
    Extends s s' → form? s row = some x → form? s' row = some x
  /-- Every row has a form, and its owner exists. -/
  owned {s : Store} : s.Consistent → ∀ row ∈ rows s,
    ∃ owner ∈ s.environments, ∃ b, form? s row = some (owner.id, b)
  /-- Dropping an environment takes away the rows it owns. -/
  rows_drop {s : Store} (environment : Int) : s.Consistent →
    rows (s.deleteOwned environment).2 =
      (rows s).filter fun row => !(form? s row).any (·.1 = environment)

namespace Table

open Store

variable {α β : Type} {T : Table α β} {s s' : Store} {environment : Int}

/-- What an environment owns of a table. -/
def view (T : Table α β) (s : Store) (environment : Int) : List β :=
  under environment ((T.rows s).filterMap (T.form? s))

/-- What an environment owns of a table is the content of a row with that owner. -/
lemma mem_view {b : β} :
    b ∈ T.view s environment ↔ ∃ row ∈ T.rows s, T.form? s row = some (environment, b) := by
  simp [view]

/-- Rows that have a form keep it in a store that extends theirs. -/
lemma filterMap_form?_of_extends (h : Extends s s') {rows : List α}
    (hforms : ∀ row ∈ rows, ∃ x, T.form? s row = some x) :
    rows.filterMap (T.form? s') = rows.filterMap (T.form? s) := by
  apply List.filterMap_congr
  intro row hrow
  obtain ⟨x, hx⟩ := hforms row hrow
  rw [hx, T.form?_of_extends h hx]

/-- A look-up finds nothing exactly if no row that is shown has the key looked for. -/
lemma find?_eq_none_iff {κ : Type} {key : β → κ} {k : κ} {p : α → Bool}
    (hp : ∀ row ∈ T.rows s,
      p row = true ↔ ∃ b, T.form? s row = some (environment, b) ∧ key b = k) :
    (T.rows s).find? p = none ↔ k ∉ (T.view s environment).map key := by
  rw [List.find?_eq_none, List.mem_map]
  constructor
  · rintro hnone ⟨b, hb, hkey⟩
    obtain ⟨row, hrow, hform⟩ := mem_view.1 hb
    exact hnone row hrow ((hp row hrow).2 ⟨b, hform, hkey⟩)
  · intro hfree row hrow hprow
    obtain ⟨b, hform, hkey⟩ := (hp row hrow).1 hprow
    exact hfree ⟨b, mem_view.2 ⟨row, hrow, hform⟩, hkey⟩

/-- In a consistent store every row has a form. -/
lemma form?_isSome (hs : s.Consistent) {row : α} (hrow : row ∈ T.rows s) :
    ∃ x, T.form? s row = some x := by
  obtain ⟨owner, -, b, hb⟩ := T.owned hs row hrow
  exact ⟨_, hb⟩

/-- A table to which nothing is added shows the same. -/
lemma view_of_extends (environment : Int) (hs : s.Consistent) (h : Extends s s')
    (hrows : T.rows s' = T.rows s) :
    T.view s' environment = T.view s environment := by
  unfold view
  rw [hrows, filterMap_form?_of_extends h fun row hrow => form?_isSome hs hrow]

/-- A new row is added to the view of its owner, and to no other. -/
lemma view_concat (hs : s.Consistent) (h : Extends s s') {row : α} {x : Int × β}
    (hrows : T.rows s' = T.rows s ++ [row]) (hx : T.form? s row = some x) :
    T.view s' environment = T.view s environment ++ under environment [x] := by
  unfold view
  rw [hrows, List.filterMap_append, under_append,
    filterMap_form?_of_extends h fun row hrow => form?_isSome hs hrow]
  simp [T.form?_of_extends h hx]

/-- Dropping an environment leaves the views of the others as they are. -/
lemma view_drop {dropped : Int} (hs : s.Consistent) (hs' : (s.deleteOwned dropped).2.Consistent)
    (h : environment ≠ dropped) : T.view (s.deleteOwned dropped).2 environment = T.view s environment := by
  have hforms : (T.rows (s.deleteOwned dropped).2).filterMap (T.form? (s.deleteOwned dropped).2) =
      (T.rows (s.deleteOwned dropped).2).filterMap (T.form? s) :=
    (filterMap_form?_of_extends hs.extends_drop fun row hrow => form?_isSome hs' hrow).symm
  unfold view
  rw [hforms, T.rows_drop dropped hs, List.filterMap_filter]
  simp only [under, List.filter_filterMap]
  congr 1
  -- a row that goes has the dropped environment for its owner, so it was not shown before
  apply List.filterMap_congr
  intro row hrow
  obtain ⟨⟨owner, b⟩, hx⟩ := form?_isSome hs hrow
  rw [hx]
  by_cases howner : owner = dropped
  · subst howner
    simp [Option.filter, Ne.symm h]
  · simp [howner]

/-- An environment that does not exist owns nothing. -/
lemma view_eq_nil (hs : s.Consistent) (h : ∀ owner ∈ s.environments, owner.id ≠ environment) :
    T.view s environment = [] := by
  apply List.eq_nil_iff_forall_not_mem.2
  intro b hb
  obtain ⟨row, hrow, hx⟩ := mem_view.1 hb
  obtain ⟨owner, howner, b', hb'⟩ := T.owned hs row hrow
  rw [hb'] at hx
  exact h owner howner (Prod.mk.inj (Option.some.inj hx)).1

/-! ## The tables of the store -/

/-- A block belongs to its environment. -/
def blocks : Table Block BlockFacts where
  rows := Store.blocks
  form? _ row := some (row.environmentId, ⟨row.height, row.indexHash, row.trieRoot⟩)
  form?_of_extends _ h := h
  owned hs row hrow := by
    obtain ⟨owner, howner, hid⟩ := hs.links.blocks row hrow
    exact ⟨owner, howner, _, by rw [hid]⟩
  rows_drop environment hs := by
    rw [deleteOwned_eq]
    simp

/-- An entry belongs to the environment of its block. -/
def entries : Table StateEntry (Int × EntryWrite) where
  rows := Store.entries
  form? s row := (s.place? row.blockId).map fun place =>
    (place.1, place.2, ⟨row.keyHash, row.value⟩)
  form?_of_extends h hx := by
    obtain ⟨place, hplace, rfl⟩ := Option.map_eq_some_iff.1 hx
    rw [h.place? hplace, Option.map_some]
  owned hs row hrow := by
    obtain ⟨home, hhome, hid⟩ := hs.links.entries row hrow
    obtain ⟨owner, howner, hownerId⟩ := hs.links.blocks home hhome
    exact ⟨owner, howner, _, by rw [← hid, hs.place?_of_mem hhome, hownerId]; rfl⟩
  rows_drop {s} environment hs := by
    rw [deleteOwned_eq]
    apply List.filter_congr
    intro row hrow
    obtain ⟨home, hhome, hid⟩ := hs.links.entries row hrow
    simp only [← hid, hs.ids.blockId_mem_iff hhome, hs.place?_of_mem hhome, Option.map_some,
      Option.any_some]

/-- A contract belongs to the environment of its block. -/
def contracts : Table Contract (Int × Deployment) where
  rows := Store.contracts
  form? s row := (s.place? row.blockId).map fun place =>
    (place.1, place.2, ⟨row.qualifiedId, row.source⟩)
  form?_of_extends h hx := by
    obtain ⟨place, hplace, rfl⟩ := Option.map_eq_some_iff.1 hx
    rw [h.place? hplace, Option.map_some]
  owned hs row hrow := by
    obtain ⟨owner, howner, home, hhome, hownerId, hid, howned⟩ := hs.links.contracts row hrow
    exact ⟨owner, howner, _, by rw [← hid, hs.place?_of_mem hhome, hownerId, howned]; rfl⟩
  rows_drop {s} environment hs := by
    rw [deleteOwned_eq]
    apply List.filter_congr
    intro row hrow
    obtain ⟨owner, howner, home, hhome, hownerId, hid, howned⟩ := hs.links.contracts row hrow
    simp only [← hid, ← howned, hs.place?_of_mem hhome, Option.map_some, Option.any_some]

/-- An execution belongs to the environment of its block. -/
def executions : Table Execution (Int × Invocation) where
  rows := Store.executions
  form? s row := (s.place? row.blockId).bind fun place =>
    (s.contractName? row.contractId).map fun name => (place.1, place.2, ⟨name.2, row.transactionId⟩)
  form?_of_extends h hx := by
    obtain ⟨place, hplace, hx⟩ := Option.bind_eq_some_iff.1 hx
    obtain ⟨name, hname, rfl⟩ := Option.map_eq_some_iff.1 hx
    rw [h.place? hplace, Option.bind_some, h.contractName? hname, Option.map_some]
  owned hs row hrow := by
    obtain ⟨home, hhome, invoked, hinvoked, hid, hinvokedId, -⟩ := hs.links.executions row hrow
    obtain ⟨owner, howner, hownerId⟩ := hs.links.blocks home hhome
    refine ⟨owner, howner, (home.height, ⟨invoked.qualifiedId, row.transactionId⟩), ?_⟩
    rw [← hid, hs.place?_of_mem hhome, Option.bind_some, ← hinvokedId,
      hs.contractName?_of_mem hinvoked, hownerId]
    rfl
  rows_drop {s} environment hs := by
    rw [deleteOwned_eq]
    apply List.filter_congr
    intro row hrow
    obtain ⟨home, hhome, invoked, hinvoked, hid, hinvokedId, -⟩ := hs.links.executions row hrow
    simp only [← hid, ← hinvokedId, hs.ids.blockId_mem_iff hhome, hs.place?_of_mem hhome,
      hs.contractName?_of_mem hinvoked, Option.bind_some, Option.map_some, Option.any_some]

/-- A variable belongs to the environment of its contract. -/
def vars : Table Variable VariableSlot where
  rows := Store.vars
  form? s row := (s.contractName? row.contractId).map fun name => (name.1, ⟨name.2, row.key⟩)
  form?_of_extends h hx := by
    obtain ⟨name, hname, rfl⟩ := Option.map_eq_some_iff.1 hx
    rw [h.contractName? hname, Option.map_some]
  owned hs row hrow := by
    obtain ⟨declarer, hdeclarer, hid⟩ := hs.links.vars row hrow
    obtain ⟨owner, howner, home, hhome, hownerId, -, -⟩ := hs.links.contracts declarer hdeclarer
    exact ⟨owner, howner, _, by rw [← hid, hs.contractName?_of_mem hdeclarer, hownerId]; rfl⟩
  rows_drop {s} environment hs := by
    rw [deleteOwned_eq]
    apply List.filter_congr
    intro row hrow
    obtain ⟨declarer, hdeclarer, hid⟩ := hs.links.vars row hrow
    simp only [← hid, hs.ids.contractId_mem_iff hdeclarer, hs.contractName?_of_mem hdeclarer,
      Option.map_some, Option.any_some]

/-- An instance belongs to the environment of its block. -/
def instances : Table VariableInstance (Int × VariableWrite) where
  rows := Store.instances
  form? s row := (s.place? row.blockId).bind fun place =>
    (s.variableName? row.variableId).bind fun name =>
      (s.transaction? row.executionId).map fun transactionId =>
        (place.1, place.2, ⟨name.2.qualifiedId, name.2.key, transactionId, row.value⟩)
  form?_of_extends h hx := by
    obtain ⟨place, hplace, hx⟩ := Option.bind_eq_some_iff.1 hx
    obtain ⟨name, hname, hx⟩ := Option.bind_eq_some_iff.1 hx
    obtain ⟨transactionId, htx, rfl⟩ := Option.map_eq_some_iff.1 hx
    rw [h.place? hplace, Option.bind_some, h.variableName? hname, Option.bind_some,
      h.transaction? htx, Option.map_some]
  owned hs row hrow := by
    obtain ⟨declared, hdeclared, declarer, hdeclarer, home, hhome, writer, hwriter, hid, hdeclarerId,
      hhomeId, hwriterId, -⟩ := hs.links.instances row hrow
    obtain ⟨owner, howner, hownerId⟩ := hs.links.blocks home hhome
    refine ⟨owner, howner, (home.height, ⟨declarer.qualifiedId, declared.key, writer.transactionId,
      row.value⟩), ?_⟩
    rw [← hhomeId, hs.place?_of_mem hhome, Option.bind_some, ← hid,
      hs.variableName?_of_mem hdeclared hdeclarer hdeclarerId, Option.bind_some, ← hwriterId,
      hs.transaction?_of_mem hwriter, hownerId]
    rfl
  rows_drop {s} environment hs := by
    rw [deleteOwned_eq]
    apply List.filter_congr
    intro row hrow
    obtain ⟨declared, hdeclared, declarer, hdeclarer, home, hhome, writer, hwriter, hid, hdeclarerId,
      hhomeId, hwriterId, -, -, howned, -⟩ := hs.links.instances row hrow
    simp only [← hid, ← hhomeId, ← hwriterId, hs.ids.blockId_mem_iff hhome,
      hs.ids.variableId_mem_iff hdeclared hdeclarer hdeclarerId, ← howned, or_self,
      hs.place?_of_mem hhome, hs.variableName?_of_mem hdeclared hdeclarer hdeclarerId,
      hs.transaction?_of_mem hwriter, Option.bind_some, Option.map_some, Option.any_some]

/-- A map belongs to the environment of its contract. -/
def maps : Table ContractMap MapName where
  rows := Store.maps
  form? s row := (s.contractName? row.contractId).map fun name => (name.1, ⟨name.2, row.name⟩)
  form?_of_extends h hx := by
    obtain ⟨name, hname, rfl⟩ := Option.map_eq_some_iff.1 hx
    rw [h.contractName? hname, Option.map_some]
  owned hs row hrow := by
    obtain ⟨declarer, hdeclarer, hid⟩ := hs.links.maps row hrow
    obtain ⟨owner, howner, home, hhome, hownerId, -, -⟩ := hs.links.contracts declarer hdeclarer
    exact ⟨owner, howner, _, by rw [← hid, hs.contractName?_of_mem hdeclarer, hownerId]; rfl⟩
  rows_drop {s} environment hs := by
    rw [deleteOwned_eq]
    apply List.filter_congr
    intro row hrow
    obtain ⟨declarer, hdeclarer, hid⟩ := hs.links.maps row hrow
    simp only [← hid, hs.ids.contractId_mem_iff hdeclarer, hs.contractName?_of_mem hdeclarer,
      Option.map_some, Option.any_some]

/-- A map entry belongs to the environment of its block. -/
def mapEntries : Table MapEntry (Int × MapWrite) where
  rows := Store.mapEntries
  form? s row := (s.place? row.blockId).bind fun place =>
    (s.mapName? row.mapId).map fun name =>
      (place.1, place.2, ⟨name.2.qualifiedId, name.2.name, row.keyHash, row.value⟩)
  form?_of_extends h hx := by
    obtain ⟨place, hplace, hx⟩ := Option.bind_eq_some_iff.1 hx
    obtain ⟨name, hname, rfl⟩ := Option.map_eq_some_iff.1 hx
    rw [h.place? hplace, Option.bind_some, h.mapName? hname, Option.map_some]
  owned hs row hrow := by
    obtain ⟨declared, hdeclared, declarer, hdeclarer, home, hhome, hid, hdeclarerId, hhomeId, -⟩ :=
      hs.links.mapEntries row hrow
    obtain ⟨owner, howner, hownerId⟩ := hs.links.blocks home hhome
    refine ⟨owner, howner, (home.height, ⟨declarer.qualifiedId, declared.name, row.keyHash,
      row.value⟩), ?_⟩
    rw [← hhomeId, hs.place?_of_mem hhome, Option.bind_some, ← hid,
      hs.mapName?_of_mem hdeclared hdeclarer hdeclarerId, hownerId]
    rfl
  rows_drop {s} environment hs := by
    rw [deleteOwned_eq]
    apply List.filter_congr
    intro row hrow
    obtain ⟨declared, hdeclared, declarer, hdeclarer, home, hhome, hid, hdeclarerId, hhomeId, howned,
      -⟩ := hs.links.mapEntries row hrow
    simp only [← hid, ← hhomeId, hs.ids.blockId_mem_iff hhome,
      hs.ids.mapId_mem_iff hdeclared hdeclarer hdeclarerId, ← howned, or_self,
      hs.place?_of_mem hhome, hs.mapName?_of_mem hdeclared hdeclarer hdeclarerId, Option.bind_some,
      Option.map_some, Option.any_some]

section Forms

variable {height : Int}

/-- A block is owned by its environment, and its content are its facts. -/
@[simp] lemma blocks_form? {row : Block} {facts : BlockFacts} :
    blocks.form? s row = some (environment, facts) ↔
      row.environmentId = environment ∧ ⟨row.height, row.indexHash, row.trieRoot⟩ = facts := by
  simp [blocks]

/-- An entry is owned by the environment of its block, and dated by it. -/
@[simp] lemma entries_form? {row : StateEntry} {write : EntryWrite} :
    entries.form? s row = some (environment, height, write) ↔
      s.place? row.blockId = some (environment, height) ∧ ⟨row.keyHash, row.value⟩ = write := by
  simp only [entries, Option.map_eq_some_iff, Prod.exists, Prod.mk.injEq]
  grind

/-- A contract is dated by the block that it was deployed in. -/
@[simp] lemma contracts_form? {row : Contract} {deployment : Deployment} :
    contracts.form? s row = some (environment, height, deployment) ↔
      s.place? row.blockId = some (environment, height) ∧ ⟨row.qualifiedId, row.source⟩ = deployment := by
  simp only [contracts, Option.map_eq_some_iff, Prod.exists, Prod.mk.injEq]
  grind

/-- An execution is dated by its block and told by the name of its contract. -/
@[simp] lemma executions_form? {row : Execution} {invocation : Invocation} :
    executions.form? s row = some (environment, height, invocation) ↔
      s.place? row.blockId = some (environment, height) ∧
        ∃ name, s.contractName? row.contractId = some name ∧
          ⟨name.2, row.transactionId⟩ = invocation := by
  simp only [executions, Option.bind_eq_some_iff, Option.map_eq_some_iff, Prod.exists, Prod.mk.injEq]
  grind

/-- A variable is owned by the environment of its contract, and has no date. -/
@[simp] lemma vars_form? {row : Variable} {slot : VariableSlot} :
    vars.form? s row = some (environment, slot) ↔
      s.contractName? row.contractId = some (environment, slot.qualifiedId) ∧ row.key = slot.key := by
  cases slot
  simp only [vars, Option.map_eq_some_iff, Prod.exists, Prod.mk.injEq, VariableSlot.mk.injEq]
  grind

/-- A write to a variable is dated by its block and told by the names of its variable and of its
execution. -/
@[simp] lemma instances_form? {row : VariableInstance} {write : VariableWrite} :
    instances.form? s row = some (environment, height, write) ↔
      s.place? row.blockId = some (environment, height) ∧
        ∃ name, s.variableName? row.variableId = some name ∧
          ∃ transactionId, s.transaction? row.executionId = some transactionId ∧
            ⟨name.2.qualifiedId, name.2.key, transactionId, row.value⟩ = write := by
  simp only [instances, Option.bind_eq_some_iff, Option.map_eq_some_iff, Prod.exists, Prod.mk.injEq]
  grind

/-- A map is owned by the environment of its contract, and has no date. -/
@[simp] lemma maps_form? {row : ContractMap} {name : MapName} :
    maps.form? s row = some (environment, name) ↔
      s.contractName? row.contractId = some (environment, name.qualifiedId) ∧ row.name = name.name := by
  cases name
  simp only [maps, Option.map_eq_some_iff, Prod.exists, Prod.mk.injEq, MapName.mk.injEq]
  grind

/-- A write to a map is dated by its block and told by the name of the map. -/
@[simp] lemma mapEntries_form? {row : MapEntry} {write : MapWrite} :
    mapEntries.form? s row = some (environment, height, write) ↔
      s.place? row.blockId = some (environment, height) ∧
        ∃ name, s.mapName? row.mapId = some name ∧
          ⟨name.2.qualifiedId, name.2.name, row.keyHash, row.value⟩ = write := by
  simp only [mapEntries, Option.bind_eq_some_iff, Option.map_eq_some_iff, Prod.exists, Prod.mk.injEq]
  grind

end Forms

end Table

end ReplayLedger
