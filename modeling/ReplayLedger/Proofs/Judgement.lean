import ReplayLedger.Proofs.Conditions
import ReplayLedger.Proofs.Watermark

/-!
# Payloads are judged by their conditions

While a payload is taken in, it is judged by conditions that speak of the payload and of the store
that it came to, although the store at each part is another one.  `Took` says what has been taken in
so far: a payload with the parts up to now.  Its block is new, so nothing that is found at the block
is older than the payload, and what is found under a name is there because the payload or an older
one has put it there.
-/

namespace ReplayLedger

open Store

/-! ## Names are not blank -/

/-- No variable and no map of a store has a blank name. -/
structure Store.Named (s : Store) : Prop where
  vars : ∀ row ∈ s.vars, ¬ Text.IsBlankText row.key
  maps : ∀ row ∈ s.maps, ¬ Text.IsBlankText row.name

namespace Store

variable {s s' : Store}

/-- A change keeps names from being blank, as each new one has been checked. -/
lemma Named.change (h : s.Named) (hchange : Change s s') : s'.Named := by
  cases hchange with
  | addVariable row _ _ _ _ named =>
    refine { h with vars := fun row' hrow => ?_ }
    rcases List.mem_append.1 hrow with hold | hnew
    · exact h.vars row' hold
    · obtain rfl := List.mem_singleton.1 hnew
      exact named
  | addMap row _ _ _ _ named =>
    refine { h with maps := fun row' hrow => ?_ }
    rcases List.mem_append.1 hrow with hold | hnew
    · exact h.maps row' hold
    · obtain rfl := List.mem_singleton.1 hnew
      exact named
  | drop environment =>
    rw [deleteOwned_eq]
    exact ⟨fun row hrow => h.vars row (List.mem_filter.1 hrow).1,
      fun row hrow => h.maps row (List.mem_filter.1 hrow).1⟩
  -- the other changes leave both tables as they are
  | _ => exact ⟨h.vars, h.maps⟩

/-- In a reachable store no name is blank. -/
lemma Reachable.named (h : s.Reachable) : s.Named :=
  h.induct ⟨nofun, nofun⟩ fun hchange hs => hs.change hchange

/-- An entry in a history is dated by one of its blocks. -/
lemma height_of_mem_entries {environment height : Int} {write : EntryWrite}
    (h : (height, write) ∈ (s.history environment).entries) :
    height ∈ (s.history environment).blocks.map (·.height) := by
  obtain ⟨row, -, hform⟩ := Table.mem_view.1 h
  exact height_of_place? (Table.entries_form?.1 hform).1

/-- A write to a map in a history is dated by one of its blocks. -/
lemma height_of_mem_mapWrites {environment height : Int} {write : MapWrite}
    (h : (height, write) ∈ (s.history environment).mapWrites) :
    height ∈ (s.history environment).blocks.map (·.height) := by
  obtain ⟨row, -, hform⟩ := Table.mem_view.1 h
  exact height_of_place? (Table.mapEntries_form?.1 hform).1

/-- The contracts of an environment are those of its history. -/
lemma Consistent.mem_contractNames_iff (hs : s.Consistent) {environment : Int} {qualifiedId : String} :
    qualifiedId ∈ (s.history environment).contractNames ↔ s.HasContract environment qualifiedId := by
  rw [← not_iff_not, ← hs.contractNamed?_eq_none]
  simp [contractNamed?, HasContract]

end Store

/-! ## What has been taken in -/

/-- Of what is written at a height, where nothing was before, only the new parts are found. -/
lemma mem_map_append_dated {γ κ : Type} {old : List (Int × γ)} {height : Int} {key : γ → κ} {k : κ}
    (hfresh : ∀ part, (height, part) ∉ old) (parts : List γ) :
    (height, k) ∈ (old ++ parts.map (height, ·)).map (fun written => (written.1, key written.2)) ↔
      k ∈ parts.map key := by
  simp only [List.map_append, List.map_map, List.mem_append, List.mem_map, Function.comp_apply,
    Prod.mk.injEq, true_and]
  constructor
  · rintro (⟨⟨height', part⟩, hold, rfl, -⟩ | hnew)
    · exact absurd hold (hfresh part)
    · exact hnew
  · exact .inr

/-- A payload for an environment on its way into a store, of which the given parts have been taken
in. -/
structure Took (s : Store) (owner : Environment) (taken : BlockPayload) (t : Ingestion) : Prop where
  tracks : Tracks s owner.id taken.height t ((s.history owner.id).append taken)
  environment : t.environment = owner
  block : t.block = nextId (s.blocks.map (·.id))
  fresh : taken.height ∉ (s.history owner.id).blocks.map (·.height)
  named : t.store.Named

namespace Took

variable {s : Store} {owner : Environment} {taken taken' : BlockPayload} {t : Ingestion}

/-- A store on its way is consistent. -/
lemma consistent (h : Took s owner taken t) : t.store.Consistent := h.tracks.grows.consistent

/-- A key is free in the new block if no entry that was taken in has it. -/
lemma entry?_eq_none (h : Took s owner taken t) {keyHash : Bytes} :
    t.store.entry? t.block keyHash = none ↔ keyHash ∉ taken.entries.map (·.keyHash) := by
  rw [h.consistent.entry?_eq_none h.tracks.place, h.tracks.grows.own, not_iff_not]
  exact mem_map_append_dated (fun _ hold => h.fresh (height_of_mem_entries hold)) taken.entries

/-- The contracts known so far are those of the environment and those taken in. -/
lemma mem_contractNames (hs : s.Consistent) {qualifiedId : String} :
    qualifiedId ∈ ((s.history owner.id).append taken).contractNames ↔
      taken.Knows s owner qualifiedId := by
  rw [BlockPayload.Knows, ← hs.mem_contractNames_iff]
  simp [History.contractNames, History.append]

/-- At the new height there are the invocations that were taken in, and no others. -/
lemma mem_executions (h : Took s owner taken t) {invocation : Invocation} :
    (taken.height, invocation) ∈ ((s.history owner.id).append taken).executions ↔
      invocation ∈ taken.executions := by
  have hold : (taken.height, invocation) ∉ (s.history owner.id).executions :=
    fun hold => h.fresh (Consistent.height_of_mem_executions hold)
  simp [History.append, hold]

/-- At the new height there are the slots of maps that were taken in, and no others. -/
lemma mem_mapKeys (h : Took s owner taken t) {slot : MapSlot} :
    (taken.height, slot) ∈ ((s.history owner.id).append taken).mapKeys ↔
      slot ∈ taken.mapWrites.map (·.slot) :=
  mem_map_append_dated (fun _ hold => h.fresh (height_of_mem_mapWrites hold)) taken.mapWrites

/-- Taking in a part does not change what is taken in, nor for whom. -/
def Same (t t' : Ingestion) : Prop := t'.environment = t.environment ∧ t'.block = t.block

/-- A part that is judged and that the history takes in as well is taken in. -/
lemma judge (h : Took s owner taken t) {conditions : List Condition} {x : Except Error Ingestion}
    {y : Except ErrorKind History} (hjudged : Judged (Same t) conditions x)
    (hagrees : Agrees (Tracks s owner.id taken.height) x y)
    (hhistory : ∀ history, y = .ok history → history = (s.history owner.id).append taken')
    (hadditions : ∀ t', x = .ok t' → Additions t.store t'.store)
    (hheight : taken'.height = taken.height) :
    Judged (Took s owner taken') conditions x := by
  refine hjudged.mono ?_
  rintro t' rfl ⟨henvironment, hblock⟩
  obtain ⟨history, hy, htracks⟩ := hagrees.of_accepted
  rw [hhistory history hy, ← hheight] at htracks
  refine ⟨htracks, henvironment.trans h.environment, hblock.trans h.block, hheight ▸ h.fresh, ?_⟩
  exact keep_of_changes (fun hchange hnamed => hnamed.change hchange) (hadditions t' rfl).changes
    h.named

/-- An entry is judged by its conditions and is taken in. -/
lemma writeEntry_judged (h : Took s owner taken t) (write : EntryWrite) :
    Judged (Took s owner { taken with entries := taken.entries ++ [write] })
      (BlockPayload.entryConditions (nextId (s.blocks.map (·.id))) taken.entries write)
      (t.writeEntry write) := by
  refine h.judge ?_ (h.tracks.writeEntry_agrees write) ?_
    (fun _ => Ingestion.additions_of_writeEntry) rfl
  · obtain ⟨home, hhome, -⟩ := place?_eq_some.1 h.tracks.place
    simp only [Ingestion.writeEntry, putEntry, nonEmptyBytes_bytes, bytes_bytes,
      referencedBlock_of_block? hhome, ok_bind, bind_assoc, pure_bind, ← h.block]
    exact .ensure Iff.rfl rfl fun _ => .ensure h.entry?_eq_none rfl fun _ => .done ⟨rfl, rfl⟩
  · intro history hresult
    simp only [History.writeEntry, bind_eq_ok, demand_eq_ok, pure_eq_ok] at hresult
    obtain ⟨-, -, -, -, rfl⟩ := hresult
    simp [History.append, BlockPayload.facts]

/-- A deployment is judged by its conditions and is taken in. -/
lemma deploy_judged (h : Took s owner taken t) (hs : s.Consistent) (deployment : Deployment) :
    Judged (Took s owner { taken with contracts := taken.contracts ++ [deployment] })
      (BlockPayload.deploymentConditions s owner taken.contracts deployment)
      (t.deploy deployment) := by
  refine h.judge ?_ (h.tracks.deploy_agrees deployment) ?_
    (fun _ => Ingestion.additions_of_deploy) rfl
  · obtain ⟨home, hhome, howned, -⟩ := place?_eq_some.1 h.tracks.place
    have hfree : t.store.contractNamed? owner.id deployment.qualifiedId = none ↔
        ¬ s.HasContract owner.id deployment.qualifiedId ∧
          deployment.qualifiedId ∉ taken.contracts.map (·.qualifiedId) := by
      rw [h.consistent.contractNamed?_eq_none, h.tracks.grows.own, mem_contractNames hs,
        BlockPayload.Knows, not_or]
    simp only [Ingestion.deploy, registerContract, name_text, encoded_text, bytes_bytes,
      referencedBlock_of_block? hhome, howned, ok_bind, bind_assoc, pure_bind]
    exact .ensure Iff.rfl rfl fun _ => .ensure hfree rfl fun _ => .done ⟨rfl, rfl⟩
  · intro history hresult
    simp only [History.deploy, bind_eq_ok, demand_eq_ok, pure_eq_ok] at hresult
    obtain ⟨-, -, -, -, rfl⟩ := hresult
    simp [History.append, BlockPayload.facts]

/-- Naming a contract takes in nothing. -/
lemma name (h : Took s owner taken t) {contracts : List (String × Int)}
    (htracks : Tracks s owner.id taken.height { t with contracts }
      ((s.history owner.id).append taken)) : Took s owner taken { t with contracts } :=
  ⟨htracks, h.environment, h.block, h.fresh, h.named⟩

/-- A contract that is not known is not found. -/
lemma contract_judged (h : Took s owner taken t) (hs : s.Consistent) (qualifiedId : String) :
    Judged (fun r => Took s owner taken r.2 ∧ (∃ contracts, r.2 = { t with contracts }) ∧
        t.store.contractName? r.1 = some (owner.id, qualifiedId))
      [.must (taken.Knows s owner qualifiedId) (.contractNotDeployed qualifiedId owner.name)]
      (t.contract qualifiedId) := by
  have hagrees := h.tracks.contract_agrees qualifiedId
  -- unknown to the history means: neither cached nor in the table
  by_cases hknown : qualifiedId ∈ ((s.history owner.id).append taken).contractNames
  · rw [demand, if_pos hknown] at hagrees
    obtain ⟨⟨id, _⟩, hr, -, htracks, hname, contracts, rfl⟩ := hagrees.of_ok
    rw [hr]
    exact .accept (by simpa [Condition.must] using (mem_contractNames hs).1 hknown)
      ⟨h.name htracks, ⟨contracts, rfl⟩, hname⟩
  · have hfree : t.store.contractNamed? owner.id qualifiedId = none := by
      rw [h.consistent.contractNamed?_eq_none, h.tracks.grows.own]
      exact hknown
    have hcached : Association.get? qualifiedId t.contracts = none := by
      rw [Option.eq_none_iff_forall_ne_some]
      exact fun id hid => hknown (h.tracks.mem_contractNames (h.tracks.contracts hid))
    have hrefused : t.contract qualifiedId = .error (.contractNotDeployed qualifiedId owner.name) := by
      simp only [Ingestion.contract, hcached, h.environment, hfree]
      rfl
    rw [hrefused]
    exact .refuse ⟨[], _, [], rfl, allHold_nil, fun hk => hknown ((mem_contractNames hs).2 hk), rfl⟩

/-- An invocation is judged by its conditions and is taken in. -/
lemma invoke_judged (h : Took s owner taken t) (hs : s.Consistent) (invocation : Invocation) :
    Judged (Took s owner { taken with executions := taken.executions ++ [invocation] })
      (taken.invocationConditions s owner (nextId (s.blocks.map (·.id))) taken.executions invocation)
      (t.invoke invocation) := by
  refine h.judge ?_ (h.tracks.invoke_agrees invocation) ?_
    (fun _ => Ingestion.additions_of_invoke) rfl
  · refine (h.contract_judged hs invocation.contract).bind ?_
    rintro ⟨contract, _⟩ ⟨-, ⟨contracts, rfl⟩, hname⟩
    obtain ⟨home, hhome, howned, -⟩ := place?_eq_some.1 h.tracks.place
    obtain ⟨invoked, hinvoked, hinvokedOwned, -⟩ := contractName?_eq_some.1 hname
    have hlive : storableId (t.store.contracts.map (·.id)) contract = .ok () :=
      storableId_of_find? hinvoked
    have hfound : (t.store.contract? contract).filter
        (fun row => row.environmentId = home.environmentId) = some invoked := by
      simp [hinvoked, hinvokedOwned, howned]
    have hfree : t.store.executionOf? t.block contract invocation.transactionId = none ↔
        invocation ∉ taken.executions := by
      rw [h.consistent.executionOf?_eq_none h.tracks.place hname, h.tracks.grows.own, h.mem_executions]
    simp only [recordExecution, nonEmptyBytes_bytes, referencedBlock_of_block? hhome, hlive, hfound,
      require, ok_bind, bind_assoc, pure_bind, ← h.block]
    exact .ensure Iff.rfl rfl fun _ => .ensure hfree ⟨contract, rfl⟩ fun _ => .done ⟨rfl, rfl⟩
  · intro history hresult
    simp only [History.invoke, bind_eq_ok, demand_eq_ok, pure_eq_ok] at hresult
    obtain ⟨-, -, -, -, -, -, rfl⟩ := hresult
    simp [History.append, BlockPayload.facts]

/-- A variable is found, or declared under a key that is not blank. -/
lemma variableId_judged (h : Took s owner taken t) {contract : Int} (slot : VariableSlot)
    (hname : t.store.contractName? contract = some (owner.id, slot.qualifiedId)) :
    Judged (fun r => ∃ history, Tracks s owner.id taken.height { t with store := r.2 } history ∧
        r.2.variableName? r.1 = some (owner.id, slot))
      [.must (¬ Text.IsBlankText slot.key) (.blankName "key")] (t.variableId contract slot.key) := by
  -- a declared name is not blank, so the condition holds also where nothing is declared
  have hjudged : Judged (fun _ => True) [.must (¬ Text.IsBlankText slot.key) (.blankName "key")]
      (t.variableId contract slot.key) := by
    obtain ⟨declarer, hdeclarer, -⟩ := contractName?_eq_some.1 hname
    have hlive : storableId (t.store.contracts.map (·.id)) contract = .ok () :=
      storableId_of_find? hdeclarer
    simp only [Ingestion.variableId, findVariable, hlive, ok_bind, pure_bind]
    cases hfound : t.store.variableNamed? contract slot.key with
    | some row =>
      obtain ⟨hrow, hkey⟩ := h.consistent.variableNamed?_eq_some.1 hfound
      have hnamed : ¬ Text.IsBlankText slot.key := (Prod.mk.inj hkey).2 ▸ h.named.vars row hrow
      exact .accept (by simpa [Condition.must] using hnamed) trivial
    | none =>
      have hfree : ensure (t.store.variableNamed? contract slot.key = none)
          (.variableDeclared contract slot.key) = .ok () := ensure_eq_ok.2 hfound
      simp only [Option.map_none, declareVariable, referencedContract, name_text, encoded_text, hlive,
        hdeclarer, require, ok_bind, bind_assoc, hfree]
      exact .ensure Iff.rfl rfl fun _ => .done trivial
  refine hjudged.mono fun r hr _ => ?_
  have hagrees := h.tracks.variableId_agrees slot hname
  rw [hr] at hagrees
  obtain ⟨history, -, hresult⟩ := hagrees.of_accepted
  exact ⟨history, hresult⟩

/-- A write to a variable is judged by its conditions and is taken in. -/
lemma writeVariable_judged (h : Took s owner taken t) (write : VariableWrite) :
    Judged (Took s owner { taken with varWrites := taken.varWrites ++ [write] })
      (taken.variableConditions write) (t.writeVariable write) := by
  refine h.judge ?_ (h.tracks.writeVariable_agrees write) ?_
    (fun _ => Ingestion.additions_of_writeVariable) rfl
  · unfold Ingestion.writeVariable Ingestion.writer
    cases hexecution : Association.get? (write.contract, write.transactionId) t.executions with
    | none =>
      have hnot : ⟨write.contract, write.transactionId⟩ ∉ taken.executions := by
        rw [← h.mem_executions, h.tracks.logged, hexecution]
        simp
      exact .refuse ⟨[], _, _, rfl, allHold_nil, hnot, rfl⟩
    | some execution =>
      have hlogged : ⟨write.contract, write.transactionId⟩ ∈ taken.executions :=
        h.mem_executions.1 (h.tracks.logged.2 ⟨execution, hexecution⟩)
      obtain ⟨writer, -, -, -, hinvoked⟩ := h.tracks.executions hexecution
      have hcontract := h.tracks.contract_agrees write.contract
      rw [demand, if_pos (h.tracks.mem_contractNames hinvoked)] at hcontract
      obtain ⟨⟨contract, _⟩, hcontract, -, htracks, hname, contracts, rfl⟩ := hcontract.of_ok
      have hwriter : AllHold [.must (⟨write.contract, write.transactionId⟩ ∈ taken.executions)
          (.writerNotExecuted write.key write.contract write.transactionId)] := by
        simpa [Condition.must] using hlogged
      simp only [require, ok_bind, hcontract]
      refine Judged.after hwriter (((h.name htracks).variableId_judged write.slot hname).bind ?_)
      rintro ⟨varId, store⟩ ⟨history, h₂, hvar⟩
      -- nothing is left that could be refused
      obtain ⟨writer, hwriter, hhere, -, hinvoked⟩ := h₂.executions hexecution
      obtain ⟨r, hrecord, -⟩ := h₂.grows.consistent.recordVariableInstance_grows h₂.place hvar hwriter
        hhere hinvoked write.value
      simp only [hrecord, ok_bind]
      exact .done ⟨rfl, rfl⟩
  · intro history hresult
    simp only [History.writeVariable, bind_eq_ok, demand_eq_ok, pure_eq_ok] at hresult
    obtain ⟨-, -, -, -, rfl⟩ := hresult
    simp [History.append, BlockPayload.facts]

/-- A map is found, or declared under a name that is not blank. -/
lemma mapId_judged (h : Took s owner taken t) {contract : Int} (name : MapName)
    (hname : t.store.contractName? contract = some (owner.id, name.qualifiedId)) :
    Judged (fun r => ∃ history, Tracks s owner.id taken.height { t with store := r.2 } history ∧
        history.mapKeys = ((s.history owner.id).append taken).mapKeys ∧
        r.2.mapName? r.1 = some (owner.id, name))
      [.must (¬ Text.IsBlankText name.name) (.blankName "name")] (t.mapId contract name.name) := by
  have hjudged : Judged (fun _ => True) [.must (¬ Text.IsBlankText name.name) (.blankName "name")]
      (t.mapId contract name.name) := by
    obtain ⟨declarer, hdeclarer, -⟩ := contractName?_eq_some.1 hname
    have hlive : storableId (t.store.contracts.map (·.id)) contract = .ok () :=
      storableId_of_find? hdeclarer
    simp only [Ingestion.mapId, findMap, hlive, ok_bind, pure_bind]
    cases hfound : t.store.mapNamed? contract name.name with
    | some row =>
      obtain ⟨hrow, hkey⟩ := h.consistent.mapNamed?_eq_some.1 hfound
      have hnamed : ¬ Text.IsBlankText name.name := (Prod.mk.inj hkey).2 ▸ h.named.maps row hrow
      exact .accept (by simpa [Condition.must] using hnamed) trivial
    | none =>
      have hfree : ensure (t.store.mapNamed? contract name.name = none)
          (.mapDeclared contract name.name) = .ok () := ensure_eq_ok.2 hfound
      simp only [Option.map_none, declareMap, referencedContract, name_text, encoded_text, hlive,
        hdeclarer, require, ok_bind, bind_assoc, hfree]
      exact .ensure Iff.rfl rfl fun _ => .done trivial
  refine hjudged.mono fun r hr _ => ?_
  have hagrees := h.tracks.mapId_agrees name hname
  rw [hr] at hagrees
  obtain ⟨history, hhistory, htracks, hmap⟩ := hagrees.of_accepted
  simp only [bind_eq_ok, demand_eq_ok, pure_eq_ok] at hhistory
  obtain ⟨-, -, rfl⟩ := hhistory
  exact ⟨_, htracks, rfl, hmap⟩

/-- A write to a map is judged by its conditions and is taken in. -/
lemma writeMap_judged (h : Took s owner taken t) (hs : s.Consistent) (write : MapWrite) :
    Judged (Took s owner { taken with mapWrites := taken.mapWrites ++ [write] })
      (taken.mapConditions s owner (nextId (s.blocks.map (·.id))) taken.mapWrites write)
      (t.writeMap write) := by
  refine h.judge ?_ (h.tracks.writeMap_agrees write) ?_
    (fun _ => Ingestion.additions_of_writeMap) rfl
  · refine (h.contract_judged hs write.contract).bind ?_
    rintro ⟨contract, _⟩ ⟨h₁, ⟨contracts, rfl⟩, hname⟩
    refine (h₁.mapId_judged write.map hname).bind ?_
    rintro ⟨mapId, store⟩ ⟨history, h₂, hkeys, hmap⟩
    obtain ⟨home, hhome, howned, -⟩ := place?_eq_some.1 h₂.place
    obtain ⟨declared, hdeclared, hdeclarer, -⟩ := mapName?_eq_some.1 hmap
    obtain ⟨declarer, hcontract, hdeclarerOwned, -⟩ := contractName?_eq_some.1 hdeclarer
    have hlive : storableId (store.maps.map (·.id)) mapId = .ok () := storableId_of_find? hdeclared
    have hblock : storableId (store.blocks.map (·.id)) t.block = .ok () := storableId_of_find? hhome
    have hmapOwner : store.mapOwner? mapId = some (declared, declarer) :=
      mapOwner?_eq_some.2 ⟨hdeclared, hcontract⟩
    have hhere : (store.block? t.block).filter
        (fun row => row.environmentId = declarer.environmentId) = some home := by
      have hfound : store.block? t.block = some home := hhome
      simp [hfound, howned, hdeclarerOwned]
    have hfree : store.mapEntry? mapId t.block write.keyHash = none ↔
        write.slot ∉ taken.mapWrites.map (·.slot) := by
      rw [h₂.grows.consistent.mapEntry?_eq_none h₂.place hmap, h₂.grows.own, hkeys]
      exact not_congr h.mem_mapKeys
    simp only [putMapEntry, nonEmptyBytes_bytes, bytes_bytes, hlive, hmapOwner, ownedBlock, hblock,
      hhere, require, ok_bind, bind_assoc, pure_bind, ← h.block]
    exact .ensure Iff.rfl rfl fun _ => .ensure hfree ⟨mapId, rfl⟩ fun _ => .done ⟨rfl, rfl⟩
  · intro history hresult
    simp only [History.writeMap, bind_eq_ok, demand_eq_ok, pure_eq_ok] at hresult
    obtain ⟨-, -, -, -, -, -, -, -, rfl⟩ := hresult
    simp [History.append, BlockPayload.facts]

end Took

/-! ## Blocks and payloads -/

namespace Store.Reachable

variable {s : Store} {owner : Environment}

/-- An environment advances exactly if it has not reached the height. -/
lemma advances_judged (owner : Environment) (height : Int) :
    Judged (fun _ => ∀ reached, owner.maxHeight = some reached → reached < height)
      [⟨∀ reached, owner.maxHeight = some reached → reached < height, fun e =>
        ∃ reached, owner.maxHeight = some reached ∧ e = .heightNotAdvancing owner.id height reached⟩]
      (owner.advances height) := by
  unfold Environment.advances
  cases hreached : owner.maxHeight with
  | none => exact .accept (by simp) (by simp)
  | some reached =>
    by_cases hlt : reached < height
    · simp only [ensure, if_pos hlt]
      exact .accept (by simpa using hlt) (by simpa using hlt)
    · simp only [ensure, if_neg hlt]
      exact .refuse ⟨[], _, [], rfl, allHold_nil, by simpa using hlt, reached, rfl, rfl⟩

/-- At a height above the one that it has reached, an environment has no block. -/
lemma fresh_of_advances (h : s.Reachable) (owned : s.environment? owner.id = some owner) {height : Int}
    (hadvances : ∀ reached, owner.maxHeight = some reached → reached < height) :
    height ∉ (s.history owner.id).blocks.map (·.height) := by
  intro hmem
  have hclimbs := h.climbs owner.id
  have hreached : (s.history owner.id).maxHeight = owner.maxHeight := by simp [history, owned]
  cases hlast : ((s.history owner.id).blocks.map (·.height)).getLast? with
  | none =>
    rw [List.getLast?_eq_none_iff.1 hlast] at hmem
    cases hmem
  | some last =>
    have hle := le_getLast?_of_rise hclimbs.rise hlast hmem
    have hlt := hadvances last (by rw [← hreached, hclimbs.reached, hlast])
    omega

/-- The block of a payload is judged by the conditions on it. -/
lemma recordBlock_judged (h : s.Reachable) (owned : s.environment? owner.id = some owner)
    (payload : BlockPayload) (hpos : 0 ≤ payload.height)
    (hrange : payload.height < 0x8000000000000000) :
    Judged (fun r => Took s owner
        { payload with entries := [], contracts := [], executions := [], varWrites := [], mapWrites := [] }
        { store := r.2, environment := owner, block := r.1 })
      (payload.blockConditions s owner)
      (s.recordBlock owner.id (.int payload.height) (.bytes payload.indexHash)
        (.bytes payload.trieRoot)) := by
  have hjudged : Judged (fun r => r.1 = nextId (s.blocks.map (·.id)) ∧
        payload.height ∉ (s.history owner.id).blocks.map (·.height))
      (payload.blockConditions s owner)
      (s.recordBlock owner.id (.int payload.height) (.bytes payload.indexHash)
        (.bytes payload.trieRoot)) := by
    have hlive : storableId (s.environments.map (·.id)) owner.id = .ok () := storableId_of_find? owned
    have hheight : ensure (0 ≤ payload.height) (.negativeHeight "height" payload.height) = .ok () :=
      ensure_eq_ok.2 hpos
    have hstorable : storable payload.height = .ok () := storable_eq_ok.2 ⟨by omega, hrange⟩
    have hhash : s.blockWithHash? owner.id payload.indexHash = none ↔
        ∀ row ∈ s.blocks, row.environmentId = owner.id → row.indexHash ≠ payload.indexHash := by
      simp [blockWithHash?]
    simp only [recordBlock, BlockFacts.ofValues, checkBlock, advance, insertBlock, height_int,
      nonEmptyBytes_bytes, hheight, hlive, owned, hstorable, require, ok_bind, bind_assoc, pure_bind]
    refine .ensure Iff.rfl rfl fun _ => .ensure Iff.rfl rfl fun _ => ?_
    refine (advances_judged owner payload.height).bind fun _ hadvances => ?_
    refine .ensure hhash rfl fun _ => ?_
    -- a height that advances is free, so the insertion's own check of it passes
    have hfresh := h.fresh_of_advances owned hadvances
    have hfree : s.blockAt? owner.id payload.height = none := blockAt?_eq_none.2 hfresh
    have hinsert : ensure ((s.setMaxHeight owner.id (some payload.height)).blockAt? owner.id
        payload.height = none) (.heightRecorded payload.height) = .ok () := ensure_eq_ok.2 hfree
    rw [hinsert]
    exact .done ⟨rfl, hfresh⟩
  refine hjudged.mono ?_
  rintro ⟨block, store⟩ hrecord ⟨hblock, hfresh⟩
  have hagrees := h.consistent.recordBlock_tracks owned payload.facts
  have hrecord' : s.recordBlock owner.id (.int payload.facts.height) (.bytes payload.facts.indexHash)
      (.bytes payload.facts.trieRoot) = .ok (block, store) := hrecord
  rw [hrecord'] at hagrees
  obtain ⟨history, hhistory, htracks⟩ := hagrees.of_accepted
  simp only [History.recordBlock, bind_eq_ok, demand_eq_ok, pure_eq_ok] at hhistory
  obtain ⟨-, -, -, -, -, -, -, -, -, -, -, -, -, -, rfl⟩ := hhistory
  refine ⟨?_, rfl, hblock, hfresh, h.named.change (writes_of_recordBlock hrecord).change⟩
  simpa [History.append, BlockPayload.facts] using htracks

/-- A payload is judged by its conditions. -/
theorem applyPayload_judged (h : s.Reachable) {payload : BlockPayload}
    (hresolve : s.resolve payload.environment = .ok owner) (hpos : 0 ≤ payload.height)
    (hrange : payload.height < 0x8000000000000000) :
    Judged (fun _ => True) (payload.conditions s owner) (s.applyPayload payload) := by
  have hs := h.consistent
  have owned := hs.environment?_of_resolve hresolve
  simp only [applyPayload, hresolve, ok_bind, BlockPayload.conditions, List.append_assoc]
  -- the block first, then list by list, each with the lists before it taken
  refine (h.recordBlock_judged owned payload hpos hrange).bind fun r h₀ => ?_
  refine (Judged.foldlM (R := fun earlier => Took s owner { payload with
      entries := earlier, contracts := [], executions := [], varWrites := [], mapWrites := [] })
    (fun _ _ write ht => ht.writeEntry_judged write) payload.entries h₀).bind fun t₁ h₁ => ?_
  refine (Judged.foldlM (R := fun earlier => Took s owner { payload with
      contracts := earlier, executions := [], varWrites := [], mapWrites := [] })
    (fun _ _ deployment ht => ht.deploy_judged hs deployment) payload.contracts h₁).bind fun t₂ h₂ => ?_
  refine (Judged.foldlM (R := fun earlier => Took s owner { payload with
      executions := earlier, varWrites := [], mapWrites := [] })
    (fun _ _ invocation ht => ht.invoke_judged hs invocation) payload.executions h₂).bind fun t₃ h₃ => ?_
  refine (Judged.foldlM (R := fun earlier => Took s owner { payload with
      varWrites := earlier, mapWrites := [] })
    (fun _ _ write ht => ht.writeVariable_judged write) payload.varWrites h₃).bind fun t₄ h₄ => ?_
  have hmaps := Judged.foldlM (R := fun earlier => Took s owner { payload with mapWrites := earlier })
    (fun _ _ write ht => ht.writeMap_judged hs write) payload.mapWrites h₄
  rw [← List.append_nil (inTurn _ _ payload.mapWrites)]
  exact hmaps.bind fun t₅ _ => .done trivial

end Store.Reachable

/-! ## Raw payloads -/

namespace Payload

open Checked

/-- What is made of a check that has passed is made of its result. -/
lemma map_eq_ok {α β : Type} {x : Checked α} {f : α → β} {b : β} :
    x.map f = .ok b ↔ ∃ a, x = .ok a ∧ f a = b := by
  cases x <;> simp [Except.map]

/-- Two checks pass together if each does. -/
lemma both_eq_ok {α β : Type} {x : Checked α} {y : Checked β} {r : α × β} :
    both x y = .ok r ↔ x = .ok r.1 ∧ y = .ok r.2 := by
  obtain ⟨a, b⟩ := r
  cases x <;> cases y <;> simp [both]

/-- A height that has passed its check is not negative. -/
lemma height_nonneg {v : Value} {n : Int} (h : height v = .ok n) : 0 ≤ n := by
  unfold height at h
  cases hinteger : integer v with
  | error problems =>
    rw [hinteger] at h
    cases h
  | ok m =>
    simp only [hinteger] at h
    split at h
    · obtain rfl := Except.ok.inj h
      assumption
    · cases h

/-- A height that has passed its check is not negative. -/
lemma field_height_nonneg {fields : Fields} {name : String} {n : Int}
    (h : field fields name height = .ok n) : 0 ≤ n := by
  unfold field at h
  cases hfound : Association.get? name fields with
  | none =>
    rw [hfound] at h
    cases h
  | some v =>
    simp only [hfound] at h
    cases hheight : height v with
    | error problems =>
      rw [hheight] at h
      cases h
    | ok m =>
      rw [hheight] at h
      obtain rfl := Except.ok.inj h
      exact height_nonneg hheight

end Payload

/-- A payload that has the required shape is at a height that is not negative. -/
lemma BlockPayload.height_of_ofValue {raw : Value} {payload : BlockPayload}
    (h : BlockPayload.ofValue raw = .ok payload) : 0 ≤ payload.height := by
  unfold BlockPayload.ofValue at h
  cases hcheck : Payload.check raw with
  | error problems =>
    rw [hcheck] at h
    cases h
  | ok checked =>
    rw [hcheck] at h
    obtain rfl := Except.ok.inj h
    cases raw with
    | record fields =>
      obtain ⟨parts, hparts, rfl⟩ := Payload.map_eq_ok.1 hcheck
      obtain ⟨-, hrest⟩ := Payload.both_eq_ok.1 hparts
      obtain ⟨hheight, -⟩ := Payload.both_eq_ok.1 hrest
      exact Payload.field_height_nonneg hheight
    | _ => cases hcheck

/-- In every reachable database a payload of the required shape, for an environment that exists and at
a height that can be stored, is accepted exactly if it is admissible.  Any other one is refused with
an error that tells the first of its conditions that is broken, in the order of the phases and, within
a phase, of the parts.  The error has one of few kinds: nothing is declared twice on the way. -/
theorem Database.Reachable.accepts_admissible {db : Database} (hdb : db.Reachable) {raw : Value}
    {payload : BlockPayload} (hchecked : BlockPayload.ofValue raw = .ok payload) {owner : Environment}
    (hresolve : db.tables.resolve payload.environment = .ok owner)
    (hrange : payload.height < 0x8000000000000000) :
    ((∃ id tables, (Script.applyBlock raw).run db = (.ok id, { db with tables })) ↔
        payload.Admissible db.tables owner) ∧
      (¬ payload.Admissible db.tables owner → ∃ e, (Script.applyBlock raw).run db = (.error e, db) ∧
        TellsFirst (payload.conditions db.tables owner) e ∧ e.kind ∈ BlockPayload.refusals) := by
  have hjudged := hdb.stores.1.applyPayload_judged hresolve (BlockPayload.height_of_ofValue hchecked)
    hrange
  have hstore : db.tables.applyBlock raw = db.tables.applyPayload payload := by
    rw [applyBlock, hchecked, ok_bind]
  rw [Script.applyBlock_eq_change, ← BlockPayload.conditions_hold_iff]
  cases happly : db.tables.applyPayload payload with
  | ok r =>
    rw [happly] at hjudged hstore
    have hall := hjudged.exists_ok_iff.1 ⟨r, rfl⟩
    have hrun := Script.run_change_of_ok (f := fun s => s.applyBlock raw) hstore
    exact ⟨⟨fun _ => hall, fun _ => ⟨r.1, r.2, hrun⟩⟩, fun hnot => absurd hall hnot⟩
  | error e =>
    rw [happly] at hjudged hstore
    have htells := hjudged.tellsFirst
    have hrun := Script.run_change_of_error (f := fun s => s.applyBlock raw) hstore
    refine ⟨⟨?_, fun hall => absurd hall htells.not_allHold⟩, fun _ => ⟨e, hrun, htells, ?_⟩⟩
    · rintro ⟨id, tables, hok⟩
      rw [hrun] at hok
      cases hok
    · obtain ⟨before, broken, after, hconditions, -, -, he⟩ := htells
      have hbroken : broken ∈ payload.conditions db.tables owner := by simp [hconditions]
      exact payload.conditions_tellsOnly db.tables owner broken hbroken e he

/-- A payload that writes a variable twice, a map of a contract that it deploys and one of a contract
that was deployed before is accepted.  One that writes an entry twice and then invokes a contract that
nobody knows is refused because of the entry. -/
theorem Database.accepts_admissible_of_two_faults :
    let raw (height : Int) (key : Bytes) (contract : String) : Value :=
      .record [("environment", .text "a"), ("height", .int height),
        ("index_hash", .bytes [height.toNat.toUInt8]), ("trie_root_hash", .bytes [2]),
        ("entries", .list [.record [("key_hash", .bytes [3]), ("value", .bytes [])],
          .record [("key_hash", .bytes key), ("value", .bytes [])]]),
        ("contracts", .list [.record [("qualified_id", .text "d"), ("source", .bytes [])]]),
        ("executions", .list [.record [("contract", .text contract), ("tx_id", .bytes [5])],
          .record [("contract", .text "d"), ("tx_id", .bytes [5])]]),
        ("variables", .list [.record [("contract", .text "d"), ("key", .text "k"),
          ("tx_id", .bytes [5]), ("value", .bytes [6])], .record [("contract", .text "d"),
          ("key", .text "k"), ("tx_id", .bytes [5]), ("value", .bytes [7])]]),
        ("maps", .list [.record [("contract", .text "c"), ("name", .text "m"),
          ("key_hash", .bytes [7]), ("value", .bytes [8])], .record [("contract", .text "d"),
          ("name", .text "m"), ("key_hash", .bytes [7]), ("value", .bytes [8])]])]
    let payload (height : Int) (key : Bytes) (contract : String) : BlockPayload :=
      ⟨.name "a", height, [height.toNat.toUInt8], [2], [⟨[3], []⟩, ⟨key, []⟩], [⟨"d", []⟩],
        [⟨contract, [5]⟩, ⟨"d", [5]⟩], [⟨"d", "k", [5], [6]⟩, ⟨"d", "k", [5], [7]⟩],
        [⟨"c", "m", [7], [8]⟩, ⟨"d", "m", [7], [8]⟩]⟩
    let setUp : List Step :=
      [.call (.createEnvironment (.text "a") (.int 1) (.text "/a")),
        .call (.applyBlock (.record [("environment", .text "a"), ("height", .int 4),
          ("index_hash", .bytes [4]), ("trie_root_hash", .bytes [2]),
          ("contracts", .list [.record [("qualified_id", .text "c"), ("source", .bytes [])]])]))]
    let db := (Step.runAll {} setUp).2
    let owner : Environment := ⟨1, "a", .interpreter, "/a", some 4⟩
    (payload 5 [4] "c").Admissible db.tables owner ∧
      (∃ id tables, (Script.applyBlock (raw 5 [4] "c")).run db = (.ok id, { db with tables })) ∧
      (Script.applyBlock (raw 5 [3] "e")).run db = (.error (.entryTaken 2 [3]), db) ∧
      TellsFirst ((payload 5 [3] "e").conditions db.tables owner) (.entryTaken 2 [3]) := by
  intro raw payload setUp db owner
  have hdb : db.Reachable := Step.reachable_runAll (.new false) setUp (by decide)
  have hresolve : db.tables.resolve (.name "a") = .ok owner := by decide +kernel
  have hgood : BlockPayload.ofValue (raw 5 [4] "c") = .ok (payload 5 [4] "c") := by decide +kernel
  have hbad : BlockPayload.ofValue (raw 5 [3] "e") = .ok (payload 5 [3] "e") := by decide +kernel
  have hrange : (5 : Int) < 0x8000000000000000 := by decide
  have haccepted : (db.tables.applyBlock (raw 5 [4] "c")).isOk = true := by decide +kernel
  have hrefused : db.tables.applyBlock (raw 5 [3] "e") = .error (.entryTaken 2 [3]) := by
    decide +kernel
  obtain ⟨haccepts, -⟩ := hdb.accepts_admissible hgood hresolve hrange
  obtain ⟨-, hrefuses⟩ := hdb.accepts_admissible hbad hresolve hrange
  have hcollides : ¬ (payload 5 [3] "e").Admissible db.tables owner :=
    fun h => absurd h.distinctEntries (by decide)
  -- nothing more is computed from the database
  clear_value db
  have hrun : (Script.applyBlock (raw 5 [3] "e")).run db = (.error (.entryTaken 2 [3]), db) := by
    rw [Script.applyBlock_eq_change]
    exact Script.run_change_of_error hrefused
  have hok : ∃ id tables,
      (Script.applyBlock (raw 5 [4] "c")).run db = (.ok id, { db with tables }) := by
    rw [Script.applyBlock_eq_change]
    cases happly : db.tables.applyBlock (raw 5 [4] "c") with
    | ok r => exact ⟨r.1, r.2, Script.run_change_of_ok happly⟩
    | error e =>
      rw [happly] at haccepted
      cases haccepted
  obtain ⟨e, he, htells, -⟩ := hrefuses hcollides
  rw [hrun] at he
  obtain rfl : Error.entryTaken 2 [3] = e := Except.error.inj (congrArg Prod.fst he)
  exact ⟨haccepts.1 hok, hok, hrun, htells⟩

end ReplayLedger
