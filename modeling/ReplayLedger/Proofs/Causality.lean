import ReplayLedger.Proofs.Feeding

/-!
# Causes come first

No write asks at which height a contract was deployed: an execution may be logged at a block below
the one of its contract.  Where whole blocks are fed this does not happen, since the block of a
payload is above all others of its environment when its parts are written.

`History.Causal` says so of a history, part by part of a payload; `Store.Causal` says it of the rows.
Every run of feeds leads to a store that is causal (`causal_of_feeds`), and in such a store no variable
and no map is declared without a write: what a refused payload has declared is undone with it.
-/

namespace ReplayLedger

/-- An invariant that every step keeps is kept by the whole loop. -/
lemma keep_of_foldlM {ε α γ : Type} {P : α → Prop} {f : α → γ → Except ε α}
    (hstep : ∀ a part a', P a → f a part = .ok a' → P a') {parts : List γ} :
    ∀ {a a' : α}, P a → parts.foldlM f a = .ok a' → P a' := by
  induction parts with
  | nil =>
    intro a a' ha h
    exact Except.ok.inj h ▸ ha
  | cons part rest ih =>
    intro a a' ha h
    rw [List.foldlM_cons] at h
    obtain ⟨a₁, hpart, hrest⟩ := bind_eq_ok.1 h
    exact ih (hstep a part a₁ ha hpart) hrest

namespace History

/-- A contract was deployed at a height or below it. -/
def Deployed (history : History) (qualifiedId : String) (height : Int) : Prop :=
  ∃ deployed ∈ history.contracts, deployed.2.qualifiedId = qualifiedId ∧ deployed.1 ≤ height

/-- Contracts are deployed before they are invoked and written to, and what is declared is written. -/
structure Causal (history : History) : Prop where
  reached : ∀ deployed ∈ history.contracts,
    ∃ height, history.maxHeight = some height ∧ deployed.1 ≤ height
  executions : ∀ logged ∈ history.executions, history.Deployed logged.2.contract logged.1
  varWrites : ∀ written ∈ history.varWrites, history.Deployed written.2.contract written.1
  mapWrites : ∀ written ∈ history.mapWrites, history.Deployed written.2.contract written.1
  vars : ∀ slot ∈ history.vars, ∃ written ∈ history.varWrites, written.2.slot = slot
  maps : ∀ name ∈ history.maps, ∃ written ∈ history.mapWrites, written.2.map = name

/-- A causal history whose last block, at the given height, is being filled. -/
structure CausalAt (height : Int) (history : History) : Prop extends history.Causal where
  top : history.maxHeight = some height

/-- What was deployed stays deployed when more is. -/
lemma Deployed.append {history : History} {qualifiedId : String} {height : Int}
    (h : history.Deployed qualifiedId height) (more : List (Int × Deployment)) :
    Deployed { history with contracts := history.contracts ++ more } qualifiedId height := by
  obtain ⟨deployed, hmem, hdeployed⟩ := h
  exact ⟨deployed, List.mem_append_left _ hmem, hdeployed⟩

variable {history history' : History} {height : Int}

/-- In the block at the top every contract has been deployed. -/
lemma CausalAt.deployed (h : CausalAt height history) {qualifiedId : String}
    (hknown : qualifiedId ∈ history.contractNames) : history.Deployed qualifiedId height := by
  obtain ⟨deployed, hmem, hname⟩ := List.mem_map.1 hknown
  obtain ⟨top, htop, hle⟩ := h.reached deployed hmem
  obtain rfl : height = top := Option.some.inj (h.top.symm.trans htop)
  exact ⟨deployed, hmem, hname, hle⟩

/-- What was declared was written before, or is written now. -/
lemma exists_of_mem_declare {α β : Type} [DecidableEq α] {known : List α} {written : List β}
    (nameOf : β → α) (h : ∀ name ∈ known, ∃ b ∈ written, nameOf b = name) (last : β) :
    ∀ name ∈ declare known (nameOf last), ∃ b ∈ written ++ [last], nameOf b = name := by
  intro name hname
  rcases mem_declare.1 hname with hknown | rfl
  · obtain ⟨b, hb, hnamed⟩ := h name hknown
    exact ⟨b, List.mem_append_left _ hb, hnamed⟩
  · exact ⟨last, by simp, rfl⟩

/-- A new block is at the top. -/
lemma Causal.recordBlock (h : history.Causal) {facts : BlockFacts}
    (hrecord : history.recordBlock facts = .ok history') : CausalAt facts.height history' := by
  simp only [History.recordBlock, bind_eq_ok, demand_eq_ok, pure_eq_ok] at hrecord
  obtain ⟨-, -, -, -, -, -, -, hadvances, -, -, -, -, -, -, rfl⟩ := hrecord
  refine ⟨⟨fun deployed hmem => ?_, h.executions, h.varWrites, h.mapWrites, h.vars, h.maps⟩, rfl⟩
  obtain ⟨reached, hreached, hle⟩ := h.reached deployed hmem
  have hlt : reached < facts.height := by simpa [hreached] using hadvances
  exact ⟨facts.height, rfl, Int.le_of_lt (Int.lt_of_le_of_lt hle hlt)⟩

namespace CausalAt

/-- An entry touches no contract. -/
lemma writeEntry (h : CausalAt height history) {write : EntryWrite}
    (hwrite : history.writeEntry height write = .ok history') : CausalAt height history' := by
  simp only [History.writeEntry, bind_eq_ok, demand_eq_ok, pure_eq_ok] at hwrite
  obtain ⟨-, -, -, -, rfl⟩ := hwrite
  exact ⟨⟨h.reached, h.executions, h.varWrites, h.mapWrites, h.vars, h.maps⟩, h.top⟩

/-- A contract is deployed at the height of the block, which is the one that is reached. -/
lemma deploy (h : CausalAt height history) {deployment : Deployment}
    (hdeploy : history.deploy height deployment = .ok history') : CausalAt height history' := by
  simp only [History.deploy, bind_eq_ok, demand_eq_ok, pure_eq_ok] at hdeploy
  obtain ⟨-, -, -, -, rfl⟩ := hdeploy
  refine ⟨⟨fun deployed hmem => ?_, fun logged hmem => (h.executions logged hmem).append _,
    fun written hmem => (h.varWrites written hmem).append _,
    fun written hmem => (h.mapWrites written hmem).append _, h.vars, h.maps⟩, h.top⟩
  rcases List.mem_append.1 hmem with hold | hnew
  · exact h.reached deployed hold
  · obtain rfl := List.mem_singleton.1 hnew
    exact ⟨height, h.top, Int.le_refl _⟩

/-- A contract is invoked only if it is known, and what is known at the top is deployed. -/
lemma invoke (h : CausalAt height history) {invocation : Invocation}
    (hinvoke : history.invoke height invocation = .ok history') : CausalAt height history' := by
  simp only [History.invoke, bind_eq_ok, demand_eq_ok, pure_eq_ok] at hinvoke
  obtain ⟨-, hknown, -, -, -, -, rfl⟩ := hinvoke
  refine ⟨⟨h.reached, fun logged hmem => ?_, h.varWrites, h.mapWrites, h.vars, h.maps⟩, h.top⟩
  rcases List.mem_append.1 hmem with hold | hnew
  · exact h.executions logged hold
  · obtain rfl := List.mem_singleton.1 hnew
    exact h.deployed hknown

/-- A variable is declared together with its first write. -/
lemma writeVariable (h : CausalAt height history) {write : VariableWrite}
    (hwrite : history.writeVariable height write = .ok history') : CausalAt height history' := by
  simp only [History.writeVariable, bind_eq_ok, demand_eq_ok, pure_eq_ok] at hwrite
  obtain ⟨-, hinvoked, -, -, rfl⟩ := hwrite
  refine ⟨⟨h.reached, h.executions, fun written hmem => ?_, h.mapWrites,
    exists_of_mem_declare (fun written => written.2.slot) h.vars (height, write), h.maps⟩, h.top⟩
  rcases List.mem_append.1 hmem with hold | hnew
  · exact h.varWrites written hold
  · obtain rfl := List.mem_singleton.1 hnew
    exact h.executions _ hinvoked

/-- A map is declared together with its first write. -/
lemma writeMap (h : CausalAt height history) {write : MapWrite}
    (hwrite : history.writeMap height write = .ok history') : CausalAt height history' := by
  simp only [History.writeMap, bind_eq_ok, demand_eq_ok, pure_eq_ok] at hwrite
  obtain ⟨-, hknown, -, -, -, -, -, -, rfl⟩ := hwrite
  refine ⟨⟨h.reached, h.executions, h.varWrites, fun written hmem => ?_, h.vars,
    exists_of_mem_declare (fun written => written.2.map) h.maps (height, write)⟩, h.top⟩
  rcases List.mem_append.1 hmem with hold | hnew
  · exact h.mapWrites written hold
  · obtain rfl := List.mem_singleton.1 hnew
    exact h.deployed hknown

end CausalAt

/-- A payload that is accepted keeps a history causal. -/
lemma Causal.apply (h : history.Causal) {payload : BlockPayload}
    (happly : history.apply payload = .ok history') : history'.Causal := by
  simp only [History.apply, bind_eq_ok] at happly
  obtain ⟨h₁, hblock, h₂, hentries, h₃, hcontracts, h₄, hexecutions, h₅, hvars, hmaps⟩ := happly
  have hcausal₁ := h.recordBlock hblock
  have hcausal₂ := keep_of_foldlM (fun _ _ _ h hstep => h.writeEntry hstep) hcausal₁ hentries
  have hcausal₃ := keep_of_foldlM (fun _ _ _ h hstep => h.deploy hstep) hcausal₂ hcontracts
  have hcausal₄ := keep_of_foldlM (fun _ _ _ h hstep => h.invoke hstep) hcausal₃ hexecutions
  have hcausal₅ := keep_of_foldlM (fun _ _ _ h hstep => h.writeVariable hstep) hcausal₄ hvars
  exact (keep_of_foldlM (fun _ _ _ h hstep => h.writeMap hstep) hcausal₅ hmaps).toCausal

/-- A history without blocks is causal. -/
lemma causal_empty : Causal {} := ⟨nofun, nofun, nofun, nofun, nofun, nofun⟩

end History

/-! ## The rows of a store -/

namespace Store

/-- A contract was deployed in the environment of a block, at that block or at a lower one. -/
def DeployedBy (s : Store) (contract block : Int) : Prop :=
  ∃ deployed origin home, s.contract? contract = some deployed ∧
    s.block? deployed.blockId = some origin ∧ s.block? block = some home ∧
    deployed.environmentId = home.environmentId ∧ origin.environmentId = home.environmentId ∧
    origin.height ≤ home.height

/-- Every execution, instance and map entry comes after the deployment of the contract that it
concerns, in the same environment, and every variable and every map has been written. -/
structure Causal (s : Store) : Prop where
  executions : ∀ row ∈ s.executions, s.DeployedBy row.contractId row.blockId
  instances : ∀ row ∈ s.instances, ∃ declared, s.variableWithId? row.variableId = some declared ∧
    s.DeployedBy declared.contractId row.blockId
  mapEntries : ∀ row ∈ s.mapEntries, ∃ declared, s.map? row.mapId = some declared ∧
    s.DeployedBy declared.contractId row.blockId
  vars : ∀ declared ∈ s.vars, ∃ row ∈ s.instances, row.variableId = declared.id
  maps : ∀ declared ∈ s.maps, ∃ row ∈ s.mapEntries, row.mapId = declared.id

namespace Consistent

variable {s : Store} {environment height : Int}

/-- What a history says of a deployment holds of the rows that it stands for. -/
lemma deployedBy (hs : s.Consistent) {contract block : Int} {qualifiedId : String}
    (hplace : s.place? block = some (environment, height))
    (hname : s.contractName? contract = some (environment, qualifiedId))
    (hdeployed : (s.history environment).Deployed qualifiedId height) :
    s.DeployedBy contract block := by
  obtain ⟨⟨low, deployment⟩, hmem, rfl, hle⟩ := hdeployed
  obtain ⟨home, hhome, hhomeOwned, rfl⟩ := place?_eq_some.1 hplace
  obtain ⟨deployed, hfound, howned, hid⟩ := contractName?_eq_some.1 hname
  obtain ⟨row, hrow, hrowPlace, -⟩ := hs.contractNamed?_of_mem hmem
  -- the contract with that name is the one that was asked for
  have hsame : s.contractNamed? environment deployment.qualifiedId = some deployed :=
    hs.contractNamed?_eq_some.2 ⟨(mem_of_contract? hfound).1, by rw [howned, hid]⟩
  obtain rfl : row = deployed := Option.some.inj (hrow.symm.trans hsame)
  obtain ⟨origin, horigin, horiginOwned, rfl⟩ := place?_eq_some.1 hrowPlace
  exact ⟨row, origin, home, hfound, horigin, hhome, howned.trans hhomeOwned.symm,
    horiginOwned.trans hhomeOwned.symm, hle⟩

/-- A store whose histories are causal is causal. -/
lemma causal (hs : s.Consistent) (h : ∀ environment, (s.history environment).Causal) : s.Causal := by
  constructor
  · intro row hrow
    obtain ⟨home, hhome, invoked, hinvoked, hid, hinvokedId, howned⟩ := hs.links.executions row hrow
    have hplace := hs.place?_of_mem hhome
    have hname := hs.contractName?_of_mem hinvoked
    rw [hid] at hplace
    rw [hinvokedId, howned] at hname
    have hlogged : (home.height, ⟨invoked.qualifiedId, row.transactionId⟩) ∈
        (s.history home.environmentId).executions :=
      Table.mem_view.2 ⟨row, hrow, Table.executions_form?.2 ⟨hplace, _, hname, rfl⟩⟩
    exact hs.deployedBy hplace hname ((h home.environmentId).executions _ hlogged)
  · intro row hrow
    obtain ⟨owner, howner, ⟨height, write⟩, hform⟩ := Table.instances.owned hs row hrow
    obtain ⟨hname, -, -⟩ := hs.instance_form? hrow hform
    obtain ⟨hplace, -⟩ := Table.instances_form?.1 hform
    obtain ⟨declared, hdeclared, hcontract, -⟩ := variableName?_eq_some.1 hname
    have hwritten := Table.mem_view.2 ⟨row, hrow, hform⟩
    exact ⟨declared, hdeclared,
      hs.deployedBy hplace hcontract ((h owner.id).varWrites _ hwritten)⟩
  · intro row hrow
    obtain ⟨owner, howner, ⟨height, write⟩, hform⟩ := Table.mapEntries.owned hs row hrow
    obtain ⟨hname, -⟩ := hs.mapEntry_form? hrow hform
    obtain ⟨hplace, -⟩ := Table.mapEntries_form?.1 hform
    obtain ⟨declared, hdeclared, hcontract, -⟩ := mapName?_eq_some.1 hname
    have hwritten := Table.mem_view.2 ⟨row, hrow, hform⟩
    exact ⟨declared, hdeclared,
      hs.deployedBy hplace hcontract ((h owner.id).mapWrites _ hwritten)⟩
  · intro declared hdeclared
    obtain ⟨owner, howner, slot, hform⟩ := Table.vars.owned hs declared hdeclared
    obtain ⟨hcontract, hkey⟩ := Table.vars_form?.1 hform
    have hname : s.variableName? declared.id = some (owner.id, slot) :=
      variableName?_eq_some.2 ⟨declared, hs.variableWithId?_eq_some.2 ⟨hdeclared, rfl⟩, hcontract, hkey⟩
    obtain ⟨⟨height, write⟩, hwritten, rfl⟩ :=
      (h owner.id).vars slot (Table.mem_view.2 ⟨declared, hdeclared, hform⟩)
    obtain ⟨row, hrow, hrowForm⟩ := Table.mem_view.1 hwritten
    obtain ⟨hrowName, -, -⟩ := hs.instance_form? hrow hrowForm
    exact ⟨row, hrow, (hs.variableName?_inj hname).1 hrowName⟩
  · intro declared hdeclared
    obtain ⟨owner, howner, name, hform⟩ := Table.maps.owned hs declared hdeclared
    obtain ⟨hcontract, hmapName⟩ := Table.maps_form?.1 hform
    have hname : s.mapName? declared.id = some (owner.id, name) :=
      mapName?_eq_some.2 ⟨declared, hs.map?_eq_some.2 ⟨hdeclared, rfl⟩, hcontract, hmapName⟩
    obtain ⟨⟨height, write⟩, hwritten, rfl⟩ :=
      (h owner.id).maps name (Table.mem_view.2 ⟨declared, hdeclared, hform⟩)
    obtain ⟨row, hrow, hrowForm⟩ := Table.mem_view.1 hwritten
    obtain ⟨hrowName, -⟩ := hs.mapEntry_form? hrow hrowForm
    exact ⟨row, hrow, (hs.mapName?_inj hname).1 hrowName⟩

end Consistent

end Store

/-- After any feeds, accepted or refused, every execution, instance and map entry comes after the
deployment of its contract, and every variable and every map has been written. -/
theorem causal_of_feeds (feeds : List Feed) (persistent : Bool) :
    (Step.runAll { persistent } (feeds.map fun feed => .call feed.call)).2.tables.Causal := by
  rw [Step.tables_runAll_feeds]
  have hs : ((feeds.map Feed.call).foldl Store.after .empty).Consistent :=
    (Store.Reachable.empty.foldl_after _).consistent
  exact hs.causal (Store.forall_history_of_feeds History.causal_empty
    (fun _ _ _ h happly => h.apply happly) feeds)

end ReplayLedger
