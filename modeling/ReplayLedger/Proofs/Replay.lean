import ReplayLedger.Proofs.Answers
import ReplayLedger.Proofs.PayloadLog

/-!
# Reads that a log of payloads answers

Where the history of an environment is the one that a log of payloads leaves, every read is answered
by the log.  `Store.Replays` says how: blocks are listed as the payloads come, a block holds the parts
of its payload, what a payload deploys or writes is known, and what was held at a height is the last
write up to there.
-/

namespace ReplayLedger

/-- The last of the dated writes of a class. -/
def lastOf {γ : Type} (p : γ → Bool) (writes : List (Int × γ)) : Option (Int × γ) :=
  (writes.filter fun written => p written.2).getLast?

namespace Store

/-- A block holds the parts of a payload: its entries as a map, its invocations in order, the last
value of every variable, and the map keys. -/
structure Holds (s : Store) (environment block : Int) (payload : BlockPayload) : Prop where
  entries : ∃ table, s.listEntries block = .ok table ∧ (table.map (·.1)).Nodup ∧
    table.Perm (payload.entries.map fun write => (write.keyHash, write.value))
  executions : ∃ rows, s.listExecutions block = .ok rows ∧
    List.Forall₂ (fun row invocation => row.transactionId = invocation.transactionId ∧
      ∃ contract, s.getContract invocation.contract environment = .ok contract ∧
        row.contractId = contract.id) rows payload.executions
  vars : ∃ table, s.variableWritesAt block = .ok table ∧ (table.map (·.1)).Nodup ∧
    ∀ slot, Association.get? slot table =
      ((payload.varWrites.filter fun write => write.slot = slot).getLast?).map (·.value)
  maps : ∃ table, s.mapWritesAt block = .ok table ∧ (table.map (·.1)).Nodup ∧
    table.Perm (payload.mapWrites.map fun write => (write.slot, write.value))

/-- All that a store tells about an environment is what a log of payloads says. -/
structure Replays (s : Store) (environment : Int) (log : List BlockPayload) : Prop where
  heights : (log.map (·.height)).Pairwise (· < ·)
  blocks : ∃ rows, s.listBlocks environment none none = .ok rows ∧
    rows.map Block.facts = log.map BlockPayload.facts
  parts : ∀ payload ∈ log, ∃ block, s.getBlock environment payload.height = .ok block ∧
    block.facts = payload.facts ∧ s.Holds environment block.id payload
  /-- A contract is known exactly if a payload deploys it. -/
  contracts : ∀ qualifiedId, (∃ row, s.getContract qualifiedId environment = .ok row) ↔
    ∃ payload ∈ log, ∃ deployment ∈ payload.contracts, deployment.qualifiedId = qualifiedId
  deployed : ∀ payload ∈ log, ∀ deployment ∈ payload.contracts, ∃ row block,
    s.getContract deployment.qualifiedId environment = .ok row ∧ row.source = deployment.source ∧
      s.getBlock environment payload.height = .ok block ∧ row.blockId = block.id
  /-- A variable is known exactly if a payload writes it. -/
  vars : ∀ slot : VariableSlot,
    (∃ contract id, s.getContract slot.qualifiedId environment = .ok contract ∧
      s.findVariable contract.id slot.key = .ok (some id)) ↔
      ∃ payload ∈ log, ∃ write ∈ payload.varWrites, write.slot = slot
  findVariable : ∀ qualifiedId contract, s.getContract qualifiedId environment = .ok contract →
    ∀ key, ∃ found, s.findVariable contract.id key = .ok found
  /-- A map is known exactly if a payload writes it. -/
  maps : ∀ name : MapName,
    (∃ contract id, s.getContract name.qualifiedId environment = .ok contract ∧
      s.findMap contract.id name.name = .ok (some id)) ↔
      ∃ payload ∈ log, ∃ write ∈ payload.mapWrites, write.map = name
  findMap : ∀ qualifiedId contract, s.getContract qualifiedId environment = .ok contract →
    ∀ name, ∃ found, s.findMap contract.id name = .ok found
  /-- What a variable held at a height is the last write to it up to that height. -/
  latestVariable : ∀ (slot : VariableSlot) (contract : Contract) (id : Int),
    s.getContract slot.qualifiedId environment = .ok contract →
    s.findVariable contract.id slot.key = .ok (some id) →
    ∀ height, 0 ≤ height → height < 0x8000000000000000 →
      ∃ latest, s.latestVariableValue id (.int height) = .ok latest ∧
        latest.map (fun row => (row.height, row.value)) =
          (lastOf (fun write => write.slot = slot)
            (dated BlockPayload.varWrites (log.filter fun payload => payload.height ≤ height))).map
              fun written => (written.1, written.2.value)
  /-- What a map held for a key at a height is the last write to it up to that height. -/
  latestMap : ∀ (name : MapName) (keyHash : Bytes) (contract : Contract) (id : Int),
    s.getContract name.qualifiedId environment = .ok contract →
    s.findMap contract.id name.name = .ok (some id) →
    ∀ height, 0 ≤ height → height < 0x8000000000000000 →
      ∃ latest, s.latestMapEntry id (.bytes keyHash) (.int height) = .ok latest ∧
        latest.map (fun row => (row.height, row.value)) =
          (lastOf (fun write => write.slot = ⟨name.qualifiedId, name.name, keyHash⟩)
            (dated BlockPayload.mapWrites (log.filter fun payload => payload.height ≤ height))).map
              fun written => (written.1, written.2.value)

namespace Consistent

variable {s : Store} {environment block : Int} {log : List BlockPayload} {payload : BlockPayload}

/-- The entries at a block are those of the payload, in the order of their keys. -/
lemma holds_entries (hs : s.Consistent) (hplace : s.place? block = some (environment, payload.height))
    (hentries : under payload.height (s.history environment).entries = payload.entries) :
    ∃ table, s.listEntries block = .ok table ∧ (table.map (·.1)).Nodup ∧
      table.Perm (payload.entries.map fun write => (write.keyHash, write.value)) := by
  have htable := hs.entriesOf_eq hplace
  rw [hentries] at htable
  have hperm : ((s.entriesOf block).mergeSort fun a b => !Bytes.lt b.1 a.1).Perm
      (payload.entries.map fun write => (write.keyHash, write.value)) := by
    rw [htable]
    exact List.mergeSort_perm _ _
  refine ⟨_, listEntries_eq hplace, (hperm.map _).nodup_iff.2 ?_, hperm⟩
  rw [← hentries, List.map_map]
  exact nodup_map_under (hs.nodup_entryKeys environment)

/-- The executions at a block are those of the payload, in its order and each under its contract. -/
lemma holds_executions (hs : s.Consistent) {owner : Environment}
    (owned : s.environment? environment = some owner)
    (hplace : s.place? block = some (environment, payload.height))
    (hexecutions : under payload.height (s.history environment).executions = payload.executions) :
    ∃ rows, s.listExecutions block = .ok rows ∧
      List.Forall₂ (fun row invocation => row.transactionId = invocation.transactionId ∧
        ∃ contract, s.getContract invocation.contract environment = .ok contract ∧
          row.contractId = contract.id) rows payload.executions := by
  refine ⟨_, listExecutions_eq hplace, ?_⟩
  rw [← hexecutions]
  refine (hs.executions_forall₂ hplace).imp ?_
  rintro row invocation ⟨hrow, height, hform⟩
  obtain ⟨home, hhome, invoked, hinvoked, hid, hinvokedId, howned⟩ := hs.links.executions row hrow
  obtain ⟨hrowPlace, name, hname, rfl⟩ := Table.executions_form?.1 hform
  rw [← hid, hs.place?_of_mem hhome] at hrowPlace
  rw [← hinvokedId, hs.contractName?_of_mem hinvoked] at hname
  obtain rfl := Option.some.inj hname
  refine ⟨rfl, invoked, ?_, hinvokedId.symm⟩
  rw [getContract_eq owned, require_eq_ok, hs.contractNamed?_eq_some]
  exact ⟨hinvoked, by rw [howned, (Prod.mk.inj (Option.some.inj hrowPlace)).1]⟩

/-- A variable has at a block the value that the payload wrote last. -/
lemma holds_vars (hs : s.Consistent) (hplace : s.place? block = some (environment, payload.height))
    (hwrites : under payload.height (s.history environment).varWrites = payload.varWrites) :
    ∃ table, s.variableWritesAt block = .ok table ∧ (table.map (·.1)).Nodup ∧
      ∀ slot, Association.get? slot table =
        ((payload.varWrites.filter fun write => write.slot = slot).getLast?).map (·.value) := by
  have htable := hs.variableTable_eq hplace
  rw [hwrites] at htable
  have hperm := List.mergeSort_perm (s.variableTable block) fun a b => !VariableSlot.lt b.1 a.1
  have hnodup : ((s.variableTable block).map (·.1)).Nodup := by
    rw [htable]
    exact Association.nodup_keys_ofWrites _
  refine ⟨_, variableWritesAt_eq hplace, (hperm.map _).nodup_iff.2 hnodup, fun slot => ?_⟩
  rw [← Association.get?_perm hnodup hperm.symm, htable, Association.get?_ofWrites, List.filter_map,
    List.getLast?_map, Option.map_map]
  rfl

/-- The writes to maps at a block are those of the payload, in the order of their slots. -/
lemma holds_maps (hs : s.Consistent) (hplace : s.place? block = some (environment, payload.height))
    (hwrites : under payload.height (s.history environment).mapWrites = payload.mapWrites) :
    ∃ table, s.mapWritesAt block = .ok table ∧ (table.map (·.1)).Nodup ∧
      table.Perm (payload.mapWrites.map fun write => (write.slot, write.value)) := by
  have hslots : ((payload.mapWrites.map fun write => (write.slot, write.value)).map (·.1)).Nodup := by
    rw [← hwrites, List.map_map]
    exact nodup_map_under (hs.nodup_mapKeys environment)
  have htable := hs.mapTable_eq hplace
  rw [hwrites, Association.ofWrites_of_nodup hslots] at htable
  have hperm : ((s.mapTable block).mergeSort fun a b => !MapSlot.lt b.1 a.1).Perm
      (payload.mapWrites.map fun write => (write.slot, write.value)) := by
    rw [htable]
    exact List.mergeSort_perm _ _
  exact ⟨_, mapWritesAt_eq hplace, (hperm.map _).nodup_iff.2 hslots, hperm⟩

/-- The block of a payload, and what it holds. -/
lemma replays_parts (hs : s.Consistent) {owner : Environment}
    (owned : s.environment? environment = some owner)
    (hhistory : s.history environment = .ofLog log)
    (hrise : (log.map (·.height)).Pairwise (· < ·)) (hmem : payload ∈ log) :
    ∃ block, s.getBlock environment payload.height = .ok block ∧ block.facts = payload.facts ∧
      s.place? block.id = some (environment, payload.height) ∧
      s.Holds environment block.id payload := by
  obtain ⟨hblocks, hentries, -, hexecutions, hvars, hmaps⟩ := History.ofLog_eq log
  rw [← hhistory] at hblocks hentries hexecutions hvars hmaps
  obtain ⟨block, hblock, hform⟩ : ∃ block ∈ s.blocks,
      Table.blocks.form? s block = some (environment, payload.facts) :=
    Table.mem_view.1 (show payload.facts ∈ (s.history environment).blocks from
      hblocks ▸ List.mem_map_of_mem hmem)
  obtain ⟨howned, hfacts⟩ := Table.blocks_form?.1 hform
  have hheight : block.height = payload.height := congrArg BlockFacts.height hfacts
  have hplace : s.place? block.id = some (environment, payload.height) := by
    rw [hs.place?_of_mem hblock, howned, hheight]
  refine ⟨block, ?_, hfacts, hplace, ?_⟩
  · have hfound : s.blockAt? environment payload.height = some block :=
      hs.blockAt?_eq_some.2 ⟨hblock, by rw [howned, hheight]⟩
    have hstorable : storable payload.height = .ok () :=
      storable_eq_ok.2 (hheight ▸ (hs.heights block hblock).2)
    rw [getBlock, storableId_of_find? owned, hstorable, hfound]
    rfl
  · constructor
    · exact hs.holds_entries hplace (hentries ▸ under_dated_of_mem _ hrise hmem)
    · exact hs.holds_executions owned hplace (hexecutions ▸ under_dated_of_mem _ hrise hmem)
    · exact hs.holds_vars hplace (hvars ▸ under_dated_of_mem _ hrise hmem)
    · exact hs.holds_maps hplace (hmaps ▸ under_dated_of_mem _ hrise hmem)

/-- The blocks of an environment are listed in the order of the log. -/
lemma replays_blocks (hs : s.Consistent) {owner : Environment}
    (owned : s.environment? environment = some owner)
    (hhistory : s.history environment = .ofLog log)
    (hrise : (log.map (·.height)).Pairwise (· < ·)) :
    ∃ rows, s.listBlocks environment none none = .ok rows ∧
      rows.map Block.facts = log.map BlockPayload.facts := by
  have hfacts : (s.blocks.filter fun row => row.environmentId = environment ∧
      withinBounds none none row.height).map Block.facts = log.map BlockPayload.facts := by
    rw [← (History.ofLog_eq log).1, ← hhistory, ← List.filter_true (s.history environment).blocks,
      ← List.map_id (List.filter _ (s.history environment).blocks)]
    refine map_eq_map_of_forall₂ (Table.blocks.forall₂_view hs ?_) ?_
    · intro row hrow owner facts hform
      obtain ⟨rfl, -⟩ := Table.blocks_form?.1 hform
      simp [withinBounds]
    · rintro row facts ⟨-, hform⟩
      exact (Table.blocks_form?.1 hform).2
  have hsorted : (s.blocks.filter fun row => row.environmentId = environment ∧
      withinBounds none none row.height).Pairwise fun a b => decide (a.height ≤ b.height) = true := by
    have hheights := congrArg (List.map BlockFacts.height) hfacts
    rw [List.map_map, List.map_map] at hheights
    have hrows : ((s.blocks.filter fun row => row.environmentId = environment ∧
        withinBounds none none row.height).map (·.height)).Pairwise (· < ·) := by
      rw [show (fun row : Block => row.height) = BlockFacts.height ∘ Block.facts from rfl, hheights]
      exact hrise
    rw [List.pairwise_map] at hrows
    exact hrows.imp fun hlt => decide_eq_true (Int.le_of_lt hlt)
  refine ⟨_, ?_, hfacts⟩
  rw [listBlocks, storableId_of_find? owned]
  simp only [storableBound, ok_bind, List.mergeSort_of_pairwise hsorted]
  rfl

/-- A contract is known exactly if a payload deploys it. -/
lemma replays_contracts (hs : s.Consistent) {owner : Environment}
    (owned : s.environment? environment = some owner)
    (hhistory : s.history environment = .ofLog log) (qualifiedId : String) :
    (∃ row, s.getContract qualifiedId environment = .ok row) ↔
      ∃ payload ∈ log, ∃ deployment ∈ payload.contracts, deployment.qualifiedId = qualifiedId := by
  have hcontracts := (History.ofLog_eq log).2.2.1
  rw [← hhistory] at hcontracts
  constructor
  · rintro ⟨row, hrow⟩
    rw [getContract_eq owned, require_eq_ok] at hrow
    have hknown : qualifiedId ∈ (s.history environment).contractNames := by
      by_contra hnone
      rw [hs.contractNamed?_eq_none.2 hnone] at hrow
      cases hrow
    obtain ⟨⟨height, deployment⟩, hmem, hid⟩ := List.mem_map.1 hknown
    rw [hcontracts] at hmem
    obtain ⟨payload, hpayload, hdeployment, -⟩ := mem_dated.1 hmem
    exact ⟨payload, hpayload, deployment, hdeployment, hid⟩
  · rintro ⟨payload, hpayload, deployment, hdeployment, rfl⟩
    have hmem : (payload.height, deployment) ∈ (s.history environment).contracts := by
      rw [hcontracts]
      exact mem_dated.2 ⟨payload, hpayload, hdeployment, rfl⟩
    obtain ⟨row, hrow, -⟩ := hs.contractNamed?_of_mem hmem
    exact ⟨row, by rw [getContract_eq owned, require_eq_ok]; exact hrow⟩

/-- A contract has the source that its payload gives it, and lies at the block of the payload. -/
lemma replays_deployed (hs : s.Consistent) {owner : Environment}
    (owned : s.environment? environment = some owner)
    (hhistory : s.history environment = .ofLog log)
    (hrise : (log.map (·.height)).Pairwise (· < ·)) (hmem : payload ∈ log) {deployment : Deployment}
    (hdeployment : deployment ∈ payload.contracts) :
    ∃ row block, s.getContract deployment.qualifiedId environment = .ok row ∧
      row.source = deployment.source ∧ s.getBlock environment payload.height = .ok block ∧
        row.blockId = block.id := by
  obtain ⟨block, hblock, -, hplace, -⟩ := hs.replays_parts owned hhistory hrise hmem
  have hknown : (payload.height, deployment) ∈ (s.history environment).contracts := by
    rw [hhistory, (History.ofLog_eq log).2.2.1]
    exact mem_dated.2 ⟨payload, hmem, hdeployment, rfl⟩
  obtain ⟨row, hrow, hrowPlace, hsource⟩ := hs.contractNamed?_of_mem hknown
  refine ⟨row, block, ?_, hsource, hblock, (hs.place?_inj hplace).1 hrowPlace⟩
  rw [getContract_eq owned, require_eq_ok]
  exact hrow

/-! ## What was held at a height -/

/-- What a variable held at a height is the last write to it up to that height. -/
lemma replays_latestVariable (hs : s.Consistent) (hhistory : s.history environment = .ofLog log)
    (hrise : (log.map (·.height)).Pairwise (· < ·)) {slot : VariableSlot} {id height : Int}
    (hname : s.variableName? id = some (environment, slot)) (hheight : 0 ≤ height)
    (hstorable : Storable height) :
    ∃ latest, s.latestVariableValue id (.int height) = .ok latest ∧
      latest.map (fun row => (row.height, row.value)) =
        (lastOf (fun write => write.slot = slot)
          (dated BlockPayload.varWrites (log.filter fun payload => payload.height ≤ height))).map
            fun written => (written.1, written.2.value) := by
  have hwrites : greatest? (fun a b => decide (a.1 ≤ b.1))
      ((s.history environment).varWrites.filter
        fun written => written.2.slot = slot ∧ written.1 ≤ height) =
      lastOf (fun write => write.slot = slot)
        (dated BlockPayload.varWrites (log.filter fun payload => payload.height ≤ height)) := by
    have hordered := pairwise_dated BlockPayload.varWrites hrise
    rw [hhistory, (History.ofLog_eq log).2.2.2.2.1, greatest?_eq_getLast?]
    · rw [filter_dated _ _ (fun write : VariableWrite => write.slot = slot)]
      rfl
    · exact (hordered.filter _).imp fun hle => decide_eq_true hle
  have hanswer := latestVariableValue_int hname hheight hstorable
  refine ⟨_, hanswer, map_eq_map_of_rel (hwrites ▸ hs.latestInstance_rel hname _) ?_⟩
  rintro row written ⟨hrow, hvalue⟩
  rw [hrow, hvalue]

/-- What a map held for a key at a height is the last write to it up to that height. -/
lemma replays_latestMap (hs : s.Consistent) (hhistory : s.history environment = .ofLog log)
    (hrise : (log.map (·.height)).Pairwise (· < ·)) {name : MapName} {keyHash : Bytes}
    {id height : Int} (hname : s.mapName? id = some (environment, name)) (hheight : 0 ≤ height)
    (hstorable : Storable height) :
    ∃ latest, s.latestMapEntry id (.bytes keyHash) (.int height) = .ok latest ∧
      latest.map (fun row => (row.height, row.value)) =
        (lastOf (fun write => write.slot = ⟨name.qualifiedId, name.name, keyHash⟩)
          (dated BlockPayload.mapWrites (log.filter fun payload => payload.height ≤ height))).map
            fun written => (written.1, written.2.value) := by
  -- a key is written once at a block, so the heights of its writes rise
  have hordered : ((s.history environment).mapWrites.filter fun written =>
      written.2.slot = ⟨name.qualifiedId, name.name, keyHash⟩ ∧ written.1 ≤ height).Pairwise
        fun a b => decide (a.1 < b.1) = true := by
    have hdistinct := hs.nodup_mapKeys environment
    rw [History.mapKeys, List.Nodup, List.pairwise_map] at hdistinct
    have hle : (s.history environment).mapWrites.Pairwise fun a b => a.1 ≤ b.1 := by
      rw [hhistory, (History.ofLog_eq log).2.2.2.2.2]
      exact pairwise_dated _ hrise
    refine ((hdistinct.and hle).filter _).imp_of_mem fun {a b} ha hb hab => ?_
    have ha' := (List.mem_filter.1 ha).2
    have hb' := (List.mem_filter.1 hb).2
    simp only [decide_eq_true_eq] at ha' hb' ⊢
    have hne : a.1 ≠ b.1 := fun heq => hab.1 (by rw [heq, ha'.1, hb'.1])
    have hleHeights := hab.2
    omega
  have hwrites : greatest? (fun a b => decide (a.1 < b.1))
      ((s.history environment).mapWrites.filter fun written =>
        written.2.slot = ⟨name.qualifiedId, name.name, keyHash⟩ ∧ written.1 ≤ height) =
      lastOf (fun write => write.slot = ⟨name.qualifiedId, name.name, keyHash⟩)
        (dated BlockPayload.mapWrites (log.filter fun payload => payload.height ≤ height)) := by
    rw [greatest?_eq_getLast? hordered, hhistory, (History.ofLog_eq log).2.2.2.2.2,
      filter_dated _ _ (fun write : MapWrite => write.slot = ⟨name.qualifiedId, name.name, keyHash⟩)]
    rfl
  have hanswer := latestMapEntry_int hname keyHash hheight hstorable
  refine ⟨_, hanswer, map_eq_map_of_rel (hwrites ▸ hs.latestMapEntry_rel hname _ _) ?_⟩
  rintro row written ⟨hrow, hvalue⟩
  rw [hrow, hvalue]

/-- Where the history of an existing environment is the one that a rising log leaves, the log answers
all reads. -/
theorem replays (hs : s.Consistent) {owner : Environment}
    (owned : s.environment? environment = some owner)
    (hhistory : s.history environment = .ofLog log)
    (hrise : (log.map (·.height)).Pairwise (· < ·)) : s.Replays environment log where
  heights := hrise
  blocks := hs.replays_blocks owned hhistory hrise
  parts payload hmem := by
    obtain ⟨block, hblock, hfacts, -, hholds⟩ := hs.replays_parts owned hhistory hrise hmem
    exact ⟨block, hblock, hfacts, hholds⟩
  contracts := hs.replays_contracts owned hhistory
  deployed payload hmem deployment hdeployment :=
    hs.replays_deployed owned hhistory hrise hmem hdeployment
  vars slot := by
    rw [hs.findVariable_iff_mem owned, hhistory]
    exact History.mem_ofLog_vars
  findVariable qualifiedId contract hcontract key :=
    ⟨_, findVariable_eq (hs.contractName?_of_getContract owned hcontract) key⟩
  maps name := by
    rw [hs.findMap_iff_mem owned, hhistory]
    exact History.mem_ofLog_maps
  findMap qualifiedId contract hcontract name :=
    ⟨_, findMap_eq (hs.contractName?_of_getContract owned hcontract) name⟩
  latestVariable slot contract id hcontract hfound height hheight hbound :=
    hs.replays_latestVariable hhistory hrise (hs.variableName?_of_findVariable owned hcontract hfound)
      hheight ⟨by omega, hbound⟩
  latestMap name keyHash contract id hcontract hfound height hheight hbound :=
    hs.replays_latestMap hhistory hrise (hs.mapName?_of_findMap owned hcontract hfound) hheight
      ⟨by omega, hbound⟩

end Consistent

end Store

end ReplayLedger
