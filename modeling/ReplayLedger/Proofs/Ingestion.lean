import ReplayLedger.Proofs.Acceptance

/-!
# Which payloads are accepted

A payload on its way into the store carries the ids behind the names that it has met so far.
`Tracks` says that these are the right ones, and that the store has grown as the history of the
environment has.  Every part of a payload keeps it so, and a payload is therefore accepted exactly if
the history of its environment accepts it (`Store.Consistent.applyPayload_agrees`).
-/

namespace ReplayLedger

open Store

/-- A payload on its way into a store: the store has grown in the environment of the payload, and
what was named so far is known under its names. -/
structure Tracks (s : Store) (environment height : Int) (t : Ingestion) (history : History) :
    Prop where
  owner : t.environment.id = environment
  grows : Grows s environment history t.store
  place : t.store.place? t.block = some (environment, height)
  contracts {qualifiedId : String} {id : Int} : Association.get? qualifiedId t.contracts = some id →
    t.store.contractName? id = some (environment, qualifiedId)
  executions {qualifiedId : String} {transactionId : Bytes} {id : Int} :
    Association.get? (qualifiedId, transactionId) t.executions = some id →
      ∃ writer, t.store.execution? id = some writer ∧ writer.blockId = t.block ∧
        writer.transactionId = transactionId ∧
        t.store.contractName? writer.contractId = some (environment, qualifiedId)
  /-- The invocations at the block are those of the payload. -/
  logged {qualifiedId : String} {transactionId : Bytes} :
    (height, ⟨qualifiedId, transactionId⟩) ∈ history.executions ↔
      ∃ id, Association.get? (qualifiedId, transactionId) t.executions = some id

namespace Tracks

variable {s : Store} {environment height : Int} {t : Ingestion} {history history' : History}

/-- A store that grows by anything but invocations keeps what was named. -/
lemma grow (h : Tracks s environment height t history) {store : Store}
    (hgrows : Grows t.store environment history' store)
    (hlogged : history'.executions = history.executions) :
    Tracks s environment height { t with store } history' where
  owner := h.owner
  grows := h.grows.trans hgrows
  place := hgrows.rows.place? h.place
  contracts hid := hgrows.rows.contractName? (h.contracts hid)
  executions hid := by
    obtain ⟨writer, hwriter, hhere, htx, hname⟩ := h.executions hid
    exact ⟨writer, hgrows.rows.execution hwriter, hhere, htx, hgrows.rows.contractName? hname⟩
  logged := by
    rw [hlogged]
    exact h.logged

/-- A contract that gets a name keeps the others. -/
lemma name (h : Tracks s environment height t history) {qualifiedId : String} {id : Int}
    (hname : t.store.contractName? id = some (environment, qualifiedId)) :
    Tracks s environment height { t with contracts := Association.put qualifiedId id t.contracts }
      history where
  owner := h.owner
  grows := h.grows
  place := h.place
  contracts {qualifiedId' id'} hid := by
    rw [Association.get?_put] at hid
    by_cases hsame : qualifiedId' = qualifiedId
    · rw [if_pos hsame] at hid
      rw [hsame, ← Option.some.inj hid]
      exact hname
    · rw [if_neg hsame] at hid
      exact h.contracts hid
  executions := h.executions
  logged := h.logged

/-- A contract with a name is one of the history. -/
lemma mem_contractNames (h : Tracks s environment height t history) {qualifiedId : String} {id : Int}
    (hname : t.store.contractName? id = some (environment, qualifiedId)) :
    qualifiedId ∈ history.contractNames := by
  obtain ⟨row, hrow, howned, hid⟩ := contractName?_eq_some.1 hname
  have hfound : t.store.contractNamed? environment qualifiedId = some row :=
    h.grows.consistent.contractNamed?_eq_some.2 ⟨(mem_of_contract? hrow).1, by rw [howned, hid]⟩
  by_contra hnone
  rw [← h.grows.own, ← h.grows.consistent.contractNamed?_eq_none, hfound] at hnone
  cases hnone

/-- A contract is found exactly if the history knows it. -/
lemma contract_agrees (h : Tracks s environment height t history) (qualifiedId : String) :
    Agrees (fun r history' => history' = history ∧ Tracks s environment height r.2 history ∧
        t.store.contractName? r.1 = some (environment, qualifiedId) ∧
        ∃ contracts, r.2 = { t with contracts })
      (t.contract qualifiedId)
      (do
        demand (qualifiedId ∈ history.contractNames) .unknownReference
        return history) := by
  unfold Ingestion.contract
  -- a contract is cached, or deployed in an earlier block, or unknown
  cases hcached : Association.get? qualifiedId t.contracts with
  | some id =>
    have hname := h.contracts hcached
    rw [demand, if_pos (h.mem_contractNames hname)]
    exact .ok ⟨rfl, h, hname, t.contracts, rfl⟩
  | none =>
    rw [h.owner]
    cases hfound : t.store.contractNamed? environment qualifiedId with
    | some row =>
      obtain ⟨hrow, howned⟩ := h.grows.consistent.contractNamed?_eq_some.1 hfound
      have hname : t.store.contractName? row.id = some (environment, qualifiedId) := by
        rw [h.grows.consistent.contractName?_of_mem hrow, howned]
      rw [demand, if_pos (h.mem_contractNames hname)]
      exact .ok ⟨rfl, h.name hname, hname, _, rfl⟩
    | none =>
      rw [h.grows.consistent.contractNamed?_eq_none, h.grows.own] at hfound
      rw [demand, if_neg hfound]
      exact .error

/-- An entry is accepted for the store exactly if it is for the history. -/
lemma writeEntry_agrees (h : Tracks s environment height t history) (write : EntryWrite) :
    Agrees (Tracks s environment height) (t.writeEntry write) (history.writeEntry height write) := by
  have hput := h.grows.consistent.putEntry_agrees h.place write
  rw [h.grows.own] at hput
  refine hput.map fun r history' hresult hgrows => h.grow hgrows ?_
  simp only [History.writeEntry, bind_eq_ok, demand_eq_ok, pure_eq_ok] at hresult
  obtain ⟨-, -, -, -, rfl⟩ := hresult
  rfl

/-- A deployment is accepted for the store exactly if it is for the history, and its id is kept. -/
lemma deploy_agrees (h : Tracks s environment height t history) (deployment : Deployment) :
    Agrees (Tracks s environment height) (t.deploy deployment) (history.deploy height deployment) := by
  have hregister := h.grows.consistent.registerContract_agrees h.place deployment
  rw [h.grows.own] at hregister
  refine hregister.map fun r history' hresult hr => (h.grow hr.1 ?_).name hr.2
  simp only [History.deploy, bind_eq_ok, demand_eq_ok, pure_eq_ok] at hresult
  obtain ⟨-, -, -, -, rfl⟩ := hresult
  rfl

/-- An invocation that is logged is known from then on. -/
lemma log (h : Tracks s environment height t history) {invocation : Invocation} {contract id : Int}
    {store : Store} (hname : t.store.contractName? contract = some (environment, invocation.contract))
    (hgrows : Grows t.store environment { history with
      executions := history.executions ++ [(height, invocation)] } store)
    (hlogged : store.execution? id = some ⟨id, t.block, contract, invocation.transactionId⟩) :
    Tracks s environment height
      { t with
        store
        executions :=
          Association.put (invocation.contract, invocation.transactionId) id t.executions }
      { history with executions := history.executions ++ [(height, invocation)] } where
  owner := h.owner
  grows := h.grows.trans hgrows
  place := hgrows.rows.place? h.place
  contracts hid := hgrows.rows.contractName? (h.contracts hid)
  executions {qualifiedId transactionId id'} hid := by
    rw [Association.get?_put] at hid
    by_cases hsame : (qualifiedId, transactionId) = (invocation.contract, invocation.transactionId)
    · rw [if_pos hsame] at hid
      obtain ⟨rfl, rfl⟩ := Prod.mk.inj hsame
      rw [← Option.some.inj hid]
      exact ⟨_, hlogged, rfl, rfl, hgrows.rows.contractName? hname⟩
    · rw [if_neg hsame] at hid
      obtain ⟨writer, hwriter, hhere, htx, hinvoked⟩ := h.executions hid
      exact ⟨writer, hgrows.rows.execution hwriter, hhere, htx, hgrows.rows.contractName? hinvoked⟩
  logged {qualifiedId transactionId} := by
    rw [List.mem_append, h.logged, Association.get?_put, List.mem_singleton]
    by_cases hsame : (qualifiedId, transactionId) = (invocation.contract, invocation.transactionId)
    · obtain ⟨rfl, rfl⟩ := Prod.mk.inj hsame
      simp
    · rw [if_neg hsame]
      have hother : (height, (⟨qualifiedId, transactionId⟩ : Invocation)) ≠ (height, invocation) := by
        rintro heq
        obtain rfl := (Prod.mk.inj heq).2
        exact hsame rfl
      simp [hother]

/-- An invocation is accepted for the store exactly if it is for the history, and its id is kept. -/
lemma invoke_agrees (h : Tracks s environment height t history) (invocation : Invocation) :
    Agrees (Tracks s environment height) (t.invoke invocation) (history.invoke height invocation) := by
  have hsteps : history.invoke height invocation =
      ((do
        demand (invocation.contract ∈ history.contractNames) .unknownReference
        return history) >>= fun history => do
        demand (invocation.transactionId ≠ []) .validation
        demand ((height, invocation) ∉ history.executions) .duplicateExecution
        return { history with executions := history.executions ++ [(height, invocation)] }) := by
    simp [History.invoke]
  rw [hsteps, Ingestion.invoke]
  refine (h.contract_agrees invocation.contract).bind ?_
  rintro ⟨contract, _⟩ _ ⟨rfl, h₁, hname, contracts, rfl⟩
  have hrecord := h₁.grows.consistent.recordExecution_agrees h₁.place invocation hname
  rw [h₁.grows.own] at hrecord
  refine hrecord.map ?_
  rintro ⟨id, store⟩ history' hresult ⟨hgrows, hlogged⟩
  simp only [bind_eq_ok, demand_eq_ok, pure_eq_ok] at hresult
  obtain ⟨-, -, -, -, rfl⟩ := hresult
  exact h₁.log hname hgrows hlogged

/-- A variable is found, or declared if its key is not blank. -/
lemma variableId_agrees (h : Tracks s environment height t history) {contract : Int}
    (slot : VariableSlot) (hname : t.store.contractName? contract = some (environment, slot.qualifiedId)) :
    Agrees (fun r history' => Tracks s environment height { t with store := r.2 } history' ∧
        r.2.variableName? r.1 = some (environment, slot))
      (t.variableId contract slot.key)
      (do
        demand (slot ∈ history.vars ∨ ¬ Text.IsBlankText slot.key) .validation
        return { history with vars := declare history.vars slot }) := by
  have hs := h.grows.consistent
  obtain ⟨owner, howner, -⟩ := contractName?_eq_some.1 hname
  have hlive : storableId (t.store.contracts.map (·.id)) contract = .ok () := storableId_of_find? howner
  have hfree := hs.variableNamed?_eq_none hname slot.key
  rw [h.grows.own] at hfree
  simp only [Ingestion.variableId, findVariable, hlive, ok_bind, pure_bind]
  cases hfound : t.store.variableNamed? contract slot.key with
  | some row =>
    have hknown : slot ∈ history.vars := by
      by_contra hnone
      rw [hfree.2 hnone] at hfound
      cases hfound
    rw [demand, if_pos (.inl hknown), declare, if_pos hknown]
    exact .ok ⟨h, hs.variableName?_of_variableNamed? hname hfound⟩
  | none =>
    have hnew : slot ∉ history.vars := hfree.1 hfound
    have hdeclare := hs.declareVariable_agrees hname (by rwa [h.grows.own])
    rw [h.grows.own] at hdeclare
    simp only [Option.map_none, hnew, false_or, declare, if_false]
    refine hdeclare.mono ?_
    rintro ⟨id, store⟩ history' hresult ⟨hgrows, hid⟩
    refine ⟨h.grow hgrows ?_, hid⟩
    simp only [bind_eq_ok, demand_eq_ok, pure_eq_ok] at hresult
    obtain ⟨-, -, rfl⟩ := hresult
    rfl

/-- A write to a variable is accepted for the store exactly if it is for the history, which says
whether the variable is declared too. -/
lemma writeVariable_agrees (h : Tracks s environment height t history) (write : VariableWrite) :
    Agrees (Tracks s environment height) (t.writeVariable write)
      (history.writeVariable height write) := by
  have hsteps : history.writeVariable height write =
      (demand ((height, ⟨write.contract, write.transactionId⟩) ∈ history.executions)
        .unknownReference >>= fun _ =>
      (do
        demand (write.slot ∈ history.vars ∨ ¬ Text.IsBlankText write.slot.key) .validation
        return { history with vars := declare history.vars write.slot }) >>= fun history =>
      return { history with varWrites := history.varWrites ++ [(height, write)] }) := by
    simp only [History.writeVariable, bind_assoc, pure_bind]
    rfl
  rw [hsteps, Ingestion.writeVariable, Ingestion.writer]
  cases hexecution : Association.get? (write.contract, write.transactionId) t.executions with
  | none =>
    have hnot : (height, ⟨write.contract, write.transactionId⟩) ∉ history.executions := by
      rw [h.logged, hexecution]
      simp
    rw [demand, if_neg hnot]
    exact .error
  | some execution =>
    obtain ⟨writer, -, -, -, hinvoked⟩ := h.executions hexecution
    rw [demand, if_pos (h.logged.2 ⟨execution, hexecution⟩)]
    -- the contract of a logged invocation is known
    have hcontract := h.contract_agrees write.contract
    rw [demand, if_pos (h.mem_contractNames hinvoked)] at hcontract
    obtain ⟨⟨contract, _⟩, hcontract, -, h₁, hname, contracts, rfl⟩ := hcontract.of_ok
    simp only [require, hcontract, ok_bind]
    refine (h₁.variableId_agrees write.slot hname).bind ?_
    rintro ⟨varId, store⟩ history' ⟨h₂, hvar⟩
    obtain ⟨writer, hwriter, hhere, htx, hinvoked⟩ := h₂.executions hexecution
    obtain ⟨⟨id, store'⟩, hrecord, hgrows⟩ := h₂.grows.consistent.recordVariableInstance_grows h₂.place
      hvar hwriter hhere hinvoked write.value
    rw [h₂.grows.own, htx] at hgrows
    rw [hrecord]
    exact .ok (h₂.grow hgrows rfl)

/-- A map is found, or declared if its name is not blank. -/
lemma mapId_agrees (h : Tracks s environment height t history) {contract : Int} (name : MapName)
    (hname : t.store.contractName? contract = some (environment, name.qualifiedId)) :
    Agrees (fun r history' => Tracks s environment height { t with store := r.2 } history' ∧
        r.2.mapName? r.1 = some (environment, name))
      (t.mapId contract name.name)
      (do
        demand (name ∈ history.maps ∨ ¬ Text.IsBlankText name.name) .validation
        return { history with maps := declare history.maps name }) := by
  have hs := h.grows.consistent
  obtain ⟨owner, howner, -⟩ := contractName?_eq_some.1 hname
  have hlive : storableId (t.store.contracts.map (·.id)) contract = .ok () := storableId_of_find? howner
  have hfree := hs.mapNamed?_eq_none hname name.name
  rw [h.grows.own] at hfree
  simp only [Ingestion.mapId, findMap, hlive, ok_bind, pure_bind]
  cases hfound : t.store.mapNamed? contract name.name with
  | some row =>
    have hknown : name ∈ history.maps := by
      by_contra hnone
      rw [hfree.2 hnone] at hfound
      cases hfound
    rw [demand, if_pos (.inl hknown), declare, if_pos hknown]
    exact .ok ⟨h, hs.mapName?_of_mapNamed? hname hfound⟩
  | none =>
    have hnew : name ∉ history.maps := hfree.1 hfound
    have hdeclare := hs.declareMap_agrees hname (by rwa [h.grows.own])
    rw [h.grows.own] at hdeclare
    simp only [Option.map_none, hnew, false_or, declare, if_false]
    refine hdeclare.mono ?_
    rintro ⟨id, store⟩ history' hresult ⟨hgrows, hid⟩
    refine ⟨h.grow hgrows ?_, hid⟩
    simp only [bind_eq_ok, demand_eq_ok, pure_eq_ok] at hresult
    obtain ⟨-, -, rfl⟩ := hresult
    rfl

/-- A write to a map is accepted for the store exactly if it is for the history, which says whether
the map is declared too. -/
lemma writeMap_agrees (h : Tracks s environment height t history) (write : MapWrite) :
    Agrees (Tracks s environment height) (t.writeMap write) (history.writeMap height write) := by
  have hsteps : history.writeMap height write =
      ((do
        demand (write.contract ∈ history.contractNames) .unknownReference
        return history) >>= fun history =>
      (do
        demand (write.map ∈ history.maps ∨ ¬ Text.IsBlankText write.map.name) .validation
        return { history with maps := declare history.maps write.map }) >>= fun history => do
        demand (write.keyHash ≠ []) .validation
        demand ((height, ⟨write.map.qualifiedId, write.map.name, write.keyHash⟩) ∉ history.mapKeys)
          .conflict
        return { history with mapWrites := history.mapWrites ++
          [(height, ⟨write.map.qualifiedId, write.map.name, write.keyHash, write.value⟩)] }) := by
    simp only [History.writeMap, bind_assoc, pure_bind]
    rfl
  rw [hsteps, Ingestion.writeMap]
  refine (h.contract_agrees write.contract).bind ?_
  rintro ⟨contract, _⟩ _ ⟨rfl, h₁, hname, contracts, rfl⟩
  refine (h₁.mapId_agrees write.map hname).bind ?_
  rintro ⟨mapId, store⟩ history' ⟨h₂, hmap⟩
  have hput := h₂.grows.consistent.putMapEntry_agrees h₂.place hmap write.keyHash write.value
  rw [h₂.grows.own] at hput
  refine hput.map ?_
  rintro ⟨id, store'⟩ history'' hresult hgrows
  refine h₂.grow hgrows ?_
  simp only [bind_eq_ok, demand_eq_ok, pure_eq_ok] at hresult
  obtain ⟨-, -, -, -, rfl⟩ := hresult
  rfl

end Tracks

namespace Store

variable {s : Store} {environment : Int}

/-- What is recorded at a block is recorded at a height of the history. -/
lemma height_of_place? {height block : Int} (h : s.place? block = some (environment, height)) :
    height ∈ (s.history environment).blocks.map (·.height) := by
  obtain ⟨home, hhome, howned, rfl⟩ := place?_eq_some.1 h
  refine List.mem_map.2 ⟨⟨home.height, home.indexHash, home.trieRoot⟩, ?_, rfl⟩
  exact Table.mem_view.2 ⟨home, (mem_of_block? hhome).1, Table.blocks_form?.2 ⟨howned, rfl⟩⟩

namespace Consistent

/-- Executions are logged at blocks that are recorded. -/
lemma height_of_mem_executions {height : Int} {invocation : Invocation}
    (h : (height, invocation) ∈ (s.history environment).executions) :
    height ∈ (s.history environment).blocks.map (·.height) := by
  obtain ⟨row, -, hform⟩ := Table.mem_view.1 h
  exact height_of_place? (Table.executions_form?.1 hform).1

/-- The block of a payload is recorded before its parts are taken in. -/
lemma recordBlock_tracks (hs : s.Consistent) {owner : Environment}
    (owned : s.environment? owner.id = some owner) (facts : BlockFacts) :
    Agrees (fun r history =>
        Tracks s owner.id facts.height { store := r.2, environment := owner, block := r.1 } history)
      (s.recordBlock owner.id (.int facts.height) (.bytes facts.indexHash) (.bytes facts.trieRoot))
      ((s.history owner.id).recordBlock facts) := by
  refine (hs.recordBlock_agrees owned facts).mono ?_
  rintro ⟨block, store⟩ history hresult ⟨hgrows, hplace⟩
  refine ⟨rfl, hgrows, hplace, ?_, ?_, ?_⟩
  · intro qualifiedId id hid
    cases hid
  · intro qualifiedId transactionId id hid
    cases hid
  · intro qualifiedId transactionId
    -- the height is new, so nothing was invoked there
    simp only [History.recordBlock, bind_eq_ok, demand_eq_ok, pure_eq_ok] at hresult
    obtain ⟨-, -, -, -, -, -, -, -, -, -, -, -, -, hfree, rfl⟩ := hresult
    constructor
    · exact fun hlogged => absurd (height_of_mem_executions hlogged) hfree
    · rintro ⟨id, hid⟩
      cases hid

/-- A payload is accepted exactly if the history of its environment accepts it, and else it is
refused with the same kind of error. -/
theorem applyPayload_agrees (hs : s.Consistent) {payload : BlockPayload} {owner : Environment}
    (hresolve : s.resolve payload.environment = .ok owner) :
    Agrees (fun r history => Grows s owner.id history r.2) (s.applyPayload payload)
      ((s.history owner.id).apply payload) := by
  have owned := hs.environment?_of_resolve hresolve
  have hblock := hs.recordBlock_tracks owned ⟨payload.height, payload.indexHash, payload.trieRoot⟩
  simp only [applyPayload, hresolve, ok_bind, History.apply]
  refine hblock.bind fun r history h => ?_
  refine (Agrees.foldlM (fun _ _ write h => h.writeEntry_agrees write) _ h).bind fun _ _ h => ?_
  refine (Agrees.foldlM (fun _ _ write h => h.deploy_agrees write) _ h).bind fun _ _ h => ?_
  refine (Agrees.foldlM (fun _ _ write h => h.invoke_agrees write) _ h).bind fun _ _ h => ?_
  refine (Agrees.foldlM (fun _ _ write h => h.writeVariable_agrees write) _ h).bind fun _ _ h => ?_
  refine (Agrees.foldlM (fun _ _ write h => h.writeMap_agrees write) _ h).map ?_
  exact fun t history _ h => h.grows

end Consistent

end Store

end ReplayLedger
