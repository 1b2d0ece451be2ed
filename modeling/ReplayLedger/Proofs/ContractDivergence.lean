import ReplayLedger.Proofs.SortedKeys
import ReplayLedger.Proofs.Stability

/-!
# Contract data on which environments differ

A comparison that comes to a report tells of contract data what it tells of entries, whatever the trie
roots say: it lists the variables, and then the keys of maps, for which the values written at the
compared blocks are not all the same, each with its value in every environment, or none where it was
not written.

Of its environments a comparison only needs to know which block each has at the height.  `reportOn` is
the report on given environments with given blocks, and `compareAmong` is the comparison after its
references have been resolved (`Consistent.compareHeights_eq_among`).

Main statement: `Store.Reachable.contractDivergences_exact`.
-/

namespace ReplayLedger

/-- If something is told of an outcome, there is one. -/
lemma exists_of_map_eq_ok {α β : Type} {x : Except Error α} {f : α → β} {b : β}
    (h : x.map f = .ok b) : ∃ a, x = .ok a ∧ f a = b := by
  cases x with
  | ok a => exact ⟨a, rfl, Except.ok.inj h⟩
  | error e => cases h

/-! ## Slots on which tables differ -/

section Slots

variable {κ : Type} [DecidableEq κ] {lt : κ → κ → Bool} {tables : List (Int × List (κ × Bytes))}

/-- The slots that do not have the same value in all tables, in ascending order. -/
def slotsDiffering (lt : κ → κ → Bool) (tables : List (Int × List (κ × Bytes))) : List κ :=
  (sortDistinct lt (tables.flatMap fun table => table.2.map (·.1))).filter fun slot =>
    !allEqual (tables.map fun table => Association.get? slot table.2)

/-- The slots that diverge come with the value in every table. -/
lemma divergingSlots_eq (lt : κ → κ → Bool) (tables : List (Int × List (κ × Bytes))) :
    divergingSlots lt tables = (slotsDiffering lt tables).map fun slot =>
      (slot, tables.map fun table => (table.1, Association.get? slot table.2)) := by
  unfold divergingSlots slotsDiffering
  rw [List.filter_map]
  congr 2
  funext slot
  simp only [Function.comp_apply, List.map_map]
  rfl

/-- A slot is listed exactly if two tables differ on it.  That a table has no value counts as a
difference to every value. -/
lemma mem_slotsDiffering {slot : κ} : slot ∈ slotsDiffering lt tables ↔
    ∃ a ∈ tables, ∃ b ∈ tables, Association.get? slot a.2 ≠ Association.get? slot b.2 := by
  have hequal : allEqual (tables.map fun table => Association.get? slot table.2) = true ↔
      ∀ a ∈ tables, ∀ b ∈ tables, Association.get? slot a.2 = Association.get? slot b.2 := by
    simp only [allEqual_iff, List.forall_mem_map]
  rw [slotsDiffering, List.mem_filter, mem_sortDistinct, List.mem_flatMap, Bool.not_eq_true',
    ← Bool.not_eq_true, hequal]
  push Not
  constructor
  · exact fun h => h.2
  · intro h
    refine ⟨?_, h⟩
    obtain ⟨a, ha, b, hb, hne⟩ := h
    by_contra hnone
    have habsent : ∀ table ∈ tables, Association.get? slot table.2 = none :=
      fun table htable => Association.get?_eq_none_iff.2 fun hmem => hnone ⟨table, htable, hmem⟩
    exact hne ((habsent a ha).trans (habsent b hb).symm)

/-- Slots that differ are reported in ascending order, each once. -/
lemma ascending_slotsDiffering {R : κ → κ → Prop} [IsStrictTotalOrder κ R]
    (hlt : ∀ a b, lt a b = true ↔ R a b) : (slotsDiffering lt tables).Pairwise R :=
  (ascending_sortDistinct hlt _).filter _

end Slots

/-- Some slots are listed in ascending order, namely those for which the values in the environments
are not all the same. -/
structure ListsDisagreements {κ : Type} (before : κ → κ → Prop) (rows : List Environment)
    (value : Environment → κ → Option Bytes) (slots : List κ) : Prop where
  ascending : slots.Pairwise before
  exact : ∀ slot, slot ∈ slots ↔ ∃ a ∈ rows, ∃ b ∈ rows, value a slot ≠ value b slot

namespace Store

variable {s : Store} {rows : List Environment} {block : Environment → Block} {height : Int}

/-! ## Reports on given blocks -/

/-- The value that was written to a place of contract data at a block. -/
def slotValue (s : Store) (block : Int) : ContractSlot → Option Bytes
  | .variableSlot slot => Association.get? slot (s.variableTable block)
  | .mapSlot slot => Association.get? slot (s.mapTable block)

/-- The report on environments with their blocks at a height. -/
def reportOn (s : Store) (rows : List Environment) (block : Environment → Block) (height : Int) :
    Report :=
  let blocks := rows.map fun row => (row.id, block row)
  let agree := allEqual (rows.map fun row => (block row).trieRoot)
  { height, environments := rows, blocks
    verdict := if agree then .agreement else .disagreement
    entryDivergences := if agree then [] else s.entryDivergences blocks
    contractDivergences := s.contractDivergences blocks }

/-- The environments agree exactly if their roots are equal. -/
lemma verdict_reportOn : (s.reportOn rows block height).verdict = .agreement ↔
    ∀ a ∈ rows, ∀ b ∈ rows, (block a).trieRoot = (block b).trieRoot := by
  have hroots : allEqual (rows.map fun row => (block row).trieRoot) = true ↔
      ∀ a ∈ rows, ∀ b ∈ rows, (block a).trieRoot = (block b).trieRoot := by
    simp only [allEqual_iff, List.forall_mem_map]
  rw [← hroots, reportOn]
  cases allEqual (rows.map fun row => (block row).trieRoot) <;> simp

/-- Entries are reported where the roots differ. -/
lemma entryDivergences_reportOn : (s.reportOn rows block height).entryDivergences =
    if allEqual (rows.map fun row => (block row).trieRoot) then []
      else divergencesOf (rows.map fun row => (row.id, s.entriesOf (block row).id)) := by
  simp only [reportOn, entryDivergences_eq, List.map_map]
  rfl

/-- The variables, and then the keys of maps, that do not have the same value at the blocks of all
environments. -/
def slotsDivergingAt (s : Store) (rows : List Environment) (block : Environment → Block) :
    List ContractSlot :=
  (slotsDiffering VariableSlot.lt
      (rows.map fun row => (row.id, s.variableTable (block row).id))).map .variableSlot ++
    (slotsDiffering MapSlot.lt
      (rows.map fun row => (row.id, s.mapTable (block row).id))).map .mapSlot

/-- A slot diverges if two environments differ in it. -/
lemma mem_slotsDivergingAt {slot : ContractSlot} : slot ∈ s.slotsDivergingAt rows block ↔
    ∃ a ∈ rows, ∃ b ∈ rows, s.slotValue (block a).id slot ≠ s.slotValue (block b).id slot := by
  cases slot with
  | variableSlot slot => simp [slotsDivergingAt, mem_slotsDiffering, slotValue]
  | mapSlot slot => simp [slotsDivergingAt, mem_slotsDiffering, slotValue]

/-- What diverges is reported with its value in every environment. -/
lemma contractDivergences_reportOn : (s.reportOn rows block height).contractDivergences =
    (s.slotsDivergingAt rows block).map fun slot =>
      ⟨slot, rows.map fun row => (row.id, s.slotValue (block row).id slot)⟩ := by
  simp only [reportOn, contractDivergences, slotsDivergingAt, divergingSlots_eq, List.map_append,
    List.map_map]
  rfl

/-! ## Comparisons of given environments -/

/-- The block of an environment at a height that it has recorded. -/
def blockOf (s : Store) (height : Int) (row : Environment) : Block :=
  (s.blockAt? row.id height).getD default

/-- The environments that have no block at a height. -/
def lackingAt (s : Store) (height : Int) (rows : List Environment) : List Environment :=
  rows.filter fun row => (s.blockAt? row.id height).isNone

/-- Compares distinct environments. -/
def compareAmong (s : Store) (rows : List Environment) (height : Value) : Except Error Report := do
  let height ← Argument.height "height" height
  ensure (2 ≤ rows.length) .tooFewEnvironments
  storable height
  ensure (s.lackingAt height rows = [])
    (.missingBlocks height (sortDistinct intLt ((s.lackingAt height rows).map (·.id))))
  return s.reportOn rows (s.blockOf height) height

/-- If none lacks a block at the height, each has one. -/
lemma blockAt?_of_lackingAt_eq_nil (h : s.lackingAt height rows = []) :
    ∀ row ∈ rows, s.blockAt? row.id height = some (s.blockOf height row) := by
  intro row hrow
  have hsome : s.blockAt? row.id height ≠ none := by
    simpa using List.filter_eq_nil_iff.1 h row hrow
  obtain ⟨found, hfound⟩ := Option.ne_none_iff_exists'.1 hsome
  rw [blockOf, hfound, Option.getD_some]

/-- A block that is there is answered if its height is in range. -/
lemma Consistent.getBlock_of_blockAt? (hs : s.Consistent) {row : Environment}
    (hrow : row ∈ s.environments) (hstorable : Storable height) {found : Block}
    (h : s.blockAt? row.id height = some found) : s.getBlock row.id height = .ok found := by
  have hknown := hs.environment?_eq_some.2 ⟨hrow, rfl⟩
  have hheld : storable height = .ok () := storable_eq_ok.2 hstorable
  rw [getBlock, storableId_of_find? hknown, ok_bind, hheld, ok_bind, h]
  rfl

/-- The blocks at a height are answered if none is missing, and else all that lack one are named. -/
lemma blocksAt_eq_among (s : Store) (rows : List Environment) (height : Int) :
    s.blocksAt (rows.map (·.id)) height = do
      storable height
      ensure (s.lackingAt height rows = [])
        (.missingBlocks height (sortDistinct intLt ((s.lackingAt height rows).map (·.id))))
      return rows.map fun row => (row.id, s.blockOf height row) := by
  unfold blocksAt
  refine bind_congr fun _ => ?_
  have hlacking : (rows.map (·.id)).filter (fun id => (s.blockAt? id height).isNone) =
      (s.lackingAt height rows).map (·.id) := by
    rw [List.filter_map]
    rfl
  simp only [hlacking, List.map_eq_nil_iff, ensure]
  by_cases hnone : s.lackingAt height rows = []
  · rw [if_pos hnone]
    refine congrArg Except.ok ?_
    rw [List.filterMap_map, ← List.filterMap_eq_map]
    refine List.filterMap_congr fun row hrow => ?_
    simp [blockAt?_of_lackingAt_eq_nil hnone row hrow]
  · rw [if_neg hnone]
    rfl

/-- A comparison is that of the environments that its references stand for, where they are mentioned
first. -/
lemma Consistent.compareHeights_eq_among (hs : s.Consistent) {refs : List Reference}
    (hrefs : List.Forall₂ (fun ref row => s.resolve ref = .ok row) refs rows) (height : Value) :
    s.compareHeights refs height = s.compareAmong rows.eraseDups height := by
  unfold compareHeights compareAmong
  simp only [hs.resolveDistinct_eq hrefs, ok_bind, blocksAt_eq_among, bind_assoc, pure_bind,
    reportOn, List.map_map]
  rfl

/-- A comparison that comes to a report has resolved its references, and reports on the environments
with their blocks. -/
lemma Consistent.report_of_compareHeights (hs : s.Consistent) {refs : List Reference}
    {height : Value} {report : Report} (h : s.compareHeights refs height = .ok report) :
    ∃ rows, List.Forall₂ (fun ref row => s.resolve ref = .ok row) refs rows ∧
      (∀ row ∈ rows.eraseDups,
        s.getBlock row.id report.height = .ok (s.blockOf report.height row)) ∧
      report = s.reportOn rows.eraseDups (s.blockOf report.height) report.height := by
  have hresolved := h
  simp only [compareHeights, bind_eq_ok] at hresolved
  obtain ⟨-, -, environments, hresolved, -⟩ := hresolved
  obtain ⟨rows, hrows, -⟩ := exists_rows_of_resolveDistinct hs hresolved
  rw [hs.compareHeights_eq_among hrows] at h
  simp only [compareAmong, bind_eq_ok, ensure_eq_ok, pure_eq_ok] at h
  obtain ⟨n, -, -, -, u, hstorable, -, hlacking, rfl⟩ := h
  refine ⟨rows, hrows, fun row hrow => ?_, rfl⟩
  have hmem : row ∈ s.environments :=
    hs.mem_of_forall₂_resolve hrows row (List.mem_eraseDups.1 hrow)
  exact hs.getBlock_of_blockAt? hmem (storable_eq_ok.1 hstorable)
    (blockAt?_of_lackingAt_eq_nil hlacking row hrow)

/-! ## What the roots and the contract data have to do with each other -/

/-- The store with other trie roots. -/
def withRoots (s : Store) (root : Block → Bytes) : Store :=
  { s with blocks := s.blocks.map fun row => { row with trieRoot := root row } }

section Blocks

variable {s' : Store} {f : Block → Block}

/-- A block that is changed but stays in its place is found where it was. -/
lemma blockAt?_of_map (hblocks : s'.blocks = s.blocks.map f)
    (hplace : ∀ row, (f row).environmentId = row.environmentId ∧ (f row).height = row.height)
    (environment height : Int) :
    s'.blockAt? environment height = (s.blockAt? environment height).map f := by
  rw [blockAt?, blockAt?, hblocks, List.find?_map]
  congr 2
  funext row
  simp only [Function.comp_apply, (hplace row).1, (hplace row).2]

/-- Where blocks are replaced by others at the same places, the others are found. -/
lemma blocksAt_of_map (hblocks : s'.blocks = s.blocks.map f)
    (hplace : ∀ row, (f row).environmentId = row.environmentId ∧ (f row).height = row.height)
    {ids : List Int} {blocks : List (Int × Block)} (h : s.blocksAt ids height = .ok blocks) :
    s'.blocksAt ids height = .ok (blocks.map fun x => (x.1, f x.2)) := by
  have hfound := blockAt?_of_map hblocks hplace
  simp only [blocksAt, bind_eq_ok, ensure_eq_ok, pure_eq_ok] at h ⊢
  obtain ⟨u, hstorable, u', hmissing, rfl⟩ := h
  refine ⟨u, hstorable, u', ?_, ?_⟩
  · simpa only [hfound, Option.isNone_map] using hmissing
  · rw [List.map_filterMap]
    refine List.filterMap_congr fun id _ => ?_
    rw [hfound, Option.map_map, Option.map_map]
    rfl

/-- A comparison only looks for environments and blocks, and for what was written at these blocks. -/
lemma compareHeights_of_map (henvironments : s'.environments = s.environments)
    (hblocks : s'.blocks = s.blocks.map f)
    (hplace : ∀ row, (f row).environmentId = row.environmentId ∧ (f row).height = row.height)
    {refs : List Reference} {height : Value} {report : Report}
    (h : s.compareHeights refs height = .ok report) :
    let blocks := report.blocks.map fun x => (x.1, f x.2)
    let agree := allEqual (blocks.map fun x => x.2.trieRoot)
    s'.compareHeights refs height = .ok { report with
      blocks
      verdict := if agree then .agreement else .disagreement
      entryDivergences := if agree then [] else s'.entryDivergences blocks
      contractDivergences := s'.contractDivergences blocks } := by
  -- references are looked up among the environments, which are the same
  have hresolve : s'.resolve = s.resolve := by
    funext ref
    cases ref with
    | id n => simp only [resolve, getEnvironment, environment?, henvironments]
    | name name => simp only [resolve, getEnvironmentByName, environmentNamed?, henvironments]
    | illFormed t => rfl
  have hresolved : s'.resolveDistinct refs = s.resolveDistinct refs := by
    rw [resolveDistinct, resolveDistinct, hresolve]
  simp only [compareHeights, bind_eq_ok, ensure_eq_ok, pure_eq_ok] at h ⊢
  obtain ⟨n, hheight, environments, hrows, u, hmany, blocks, hfound, rfl⟩ := h
  exact ⟨n, hheight, environments, hresolved.trans hrows, u, hmany, _,
    blocksAt_of_map hblocks hplace hfound, rfl⟩

end Blocks

/-- The roots do not count for what is told of contract data. -/
lemma contractDivergences_withRoots (root : Block → Bytes) {refs : List Reference} {height : Value}
    {report : Report} (h : s.compareHeights refs height = .ok report) :
    ∃ other, (s.withRoots root).compareHeights refs height = .ok other ∧
      other.contractDivergences = report.contractDivergences := by
  have henvironments : (s.withRoots root).environments = s.environments := rfl
  have hblocks : (s.withRoots root).blocks =
      s.blocks.map fun row => { row with trieRoot := root row } := rfl
  refine ⟨_, compareHeights_of_map henvironments hblocks (fun _ => ⟨rfl, rfl⟩) h, ?_⟩
  simp only [compareHeights, bind_eq_ok, ensure_eq_ok, pure_eq_ok] at h
  obtain ⟨n, -, environments, -, -, -, blocks, -, rfl⟩ := h
  simp only [contractDivergences, List.map_map]
  rfl

/-- What was written at blocks does not count for the verdict. -/
lemma verdict_of_same_blocks {s' : Store} (henvironments : s'.environments = s.environments)
    (hblocks : s'.blocks = s.blocks) {refs : List Reference} {height : Value} {report : Report}
    (h : s.compareHeights refs height = .ok report) :
    ∃ other, s'.compareHeights refs height = .ok other ∧ other.verdict = report.verdict := by
  have hmap : s'.blocks = s.blocks.map id := hblocks.trans (List.map_id _).symm
  refine ⟨_, compareHeights_of_map henvironments hmap (fun _ => ⟨rfl, rfl⟩) h, ?_⟩
  simp only [compareHeights, bind_eq_ok, ensure_eq_ok, pure_eq_ok] at h
  obtain ⟨n, -, environments, -, -, -, blocks, -, rfl⟩ := h
  simp only [List.map_map]
  rfl

/-! ## What is reported of contract data -/

/-- A slot of a variable has in the sorted writes the value that it has at the block. -/
lemma get?_variableWrites (block : Int) (slot : VariableSlot) :
    Association.get? slot
      ((s.variableTable block).mergeSort fun a b => !VariableSlot.lt b.1 a.1) =
      s.slotValue block (.variableSlot slot) :=
  (Association.get?_perm (Association.nodup_keys_ofWrites _) (List.mergeSort_perm _ _).symm).symm

/-- A slot of a map has in the sorted writes the value that it has at the block. -/
lemma get?_mapWrites (block : Int) (slot : MapSlot) :
    Association.get? slot ((s.mapTable block).mergeSort fun a b => !MapSlot.lt b.1 a.1) =
      s.slotValue block (.mapSlot slot) :=
  (Association.get?_perm (Association.nodup_keys_ofWrites _) (List.mergeSort_perm _ _).symm).symm

/-- A report lists, in ascending order, the variables for which the values written at the compared
blocks are not all the same, and then the keys of maps for which they are not, each with the value of
every environment in the order of first mention.  This is so whatever the roots are, and whatever was
written at the blocks, the verdict is the same. -/
theorem Reachable.contractDivergences_exact (hs : s.Reachable) {refs : List Reference}
    {height : Value} {report : Report} (h : s.compareHeights refs height = .ok report) :
    (∃ rows, List.Forall₂ (fun ref row => s.resolve ref = .ok row) refs rows ∧
      report.environments = rows.eraseDups) ∧
    (∃ (block : Environment → Block) (varWrites : Environment → List (VariableSlot × Bytes))
        (mapWrites : Environment → List (MapSlot × Bytes)) (varSlots : List VariableSlot)
        (mapSlots : List MapSlot),
      (∀ row ∈ report.environments, s.getBlock row.id report.height = .ok (block row) ∧
        s.variableWritesAt (block row).id = .ok (varWrites row) ∧
        s.mapWritesAt (block row).id = .ok (mapWrites row)) ∧
      ListsDisagreements VariableSlot.Before report.environments
        (fun row slot => Association.get? slot (varWrites row)) varSlots ∧
      ListsDisagreements MapSlot.Before report.environments
        (fun row slot => Association.get? slot (mapWrites row)) mapSlots ∧
      report.contractDivergences =
        (varSlots.map fun slot => ⟨.variableSlot slot, report.environments.map fun row =>
          (row.id, Association.get? slot (varWrites row))⟩) ++
        (mapSlots.map fun slot => ⟨.mapSlot slot, report.environments.map fun row =>
          (row.id, Association.get? slot (mapWrites row))⟩) ∧
      (report.verdict = .agreement ↔ ∀ a ∈ report.environments, ∀ b ∈ report.environments,
        (block a).trieRoot = (block b).trieRoot)) ∧
    (∀ root : Block → Bytes, ∃ other, (s.withRoots root).compareHeights refs height = .ok other ∧
      other.contractDivergences = report.contractDivergences) ∧
    ∀ s' : Store, s'.environments = s.environments → s'.blocks = s.blocks →
      ∃ other, s'.compareHeights refs height = .ok other ∧ other.verdict = report.verdict := by
  have hconsistent := hs.consistent
  obtain ⟨rows, hrows, hblocks, hreport⟩ := hconsistent.report_of_compareHeights h
  refine ⟨⟨rows, hrows, by rw [hreport]; rfl⟩, ?_,
    fun root => contractDivergences_withRoots root h,
    fun s' henvironments hsame => verdict_of_same_blocks henvironments hsame h⟩
  generalize report.height = n at hblocks hreport ⊢
  subst hreport
  -- the writes at the blocks in the order of the slots, and the slots that differ
  let block := s.blockOf n
  refine ⟨block,
    fun row => (s.variableTable (block row).id).mergeSort fun a b => !VariableSlot.lt b.1 a.1,
    fun row => (s.mapTable (block row).id).mergeSort fun a b => !MapSlot.lt b.1 a.1,
    slotsDiffering VariableSlot.lt
      (rows.eraseDups.map fun row => (row.id, s.variableTable (block row).id)),
    slotsDiffering MapSlot.lt (rows.eraseDups.map fun row => (row.id, s.mapTable (block row).id)),
    ?_, ?_, ?_, ?_, verdict_reportOn⟩
  · intro row hrow
    have hfound := hblocks row hrow
    have hplace := hconsistent.place?_of_mem
      (hconsistent.blockAt?_eq_some.1 (getBlock_eq_ok hfound).2).1
    exact ⟨hfound, variableWritesAt_eq hplace, mapWritesAt_eq hplace⟩
  · refine ⟨ascending_slotsDiffering VariableSlot.lt_iff, fun slot => ?_⟩
    simp only [mem_slotsDiffering, List.mem_map, exists_exists_and_eq_and, get?_variableWrites]
    rfl
  · refine ⟨ascending_slotsDiffering MapSlot.lt_iff, fun slot => ?_⟩
    simp only [mem_slotsDiffering, List.mem_map, exists_exists_and_eq_and, get?_mapWrites]
    rfl
  · rw [contractDivergences_reportOn, slotsDivergingAt, List.map_append, List.map_map, List.map_map]
    simp only [get?_variableWrites, get?_mapWrites]
    rfl

/-- Three environments with equal roots, one of them mentioned twice.  One has written an empty value
where the others have written none, and one misses a key of a map; a variable that was written twice
at one block agrees with the others in the end.  With other roots the same is told of contract data. -/
theorem contractDivergences_exact_of_empty_value :
    let payload (environment : String) (values : List (String × Bytes)) (keys : List UInt8) : Value :=
      .record [("environment", .text environment), ("height", .int 4), ("index_hash", .bytes [1]),
        ("trie_root_hash", .bytes [7]), ("entries", .list []),
        ("contracts", .list [.record [("qualified_id", .text "c"), ("source", .bytes [])]]),
        ("executions", .list [.record [("contract", .text "c"), ("tx_id", .bytes [5])]]),
        ("variables", .list (values.map fun (key, value) => .record [("contract", .text "c"),
          ("key", .text key), ("tx_id", .bytes [5]), ("value", .bytes value)])),
        ("maps", .list (keys.map fun key => .record [("contract", .text "c"), ("name", .text "m"),
          ("key_hash", .bytes [key]), ("value", .bytes [0])]))]
    let steps : List Step := [.call (.createEnvironment (.text "a") (.int 1) (.text "/a")),
      .call (.createEnvironment (.text "b") (.int 2) (.text "/b")),
      .call (.createEnvironment (.text "c") (.int 0) (.text "/c")),
      .call (.applyBlock (payload "a" [("k", [1]), ("k", [2])] [200, 9, 8])),
      .call (.applyBlock (payload "b" [("k", [2]), ("j", [])] [9])),
      .call (.applyBlock (payload "c" [("k", [2])] [9, 200]))]
    let s : Store := (Step.runAll {} steps).2.tables
    let refs : List Reference := [.name "b", .id 1, .id 2, .name "c"]
    let root (row : Block) : Bytes := [row.id.toNat.toUInt8]
    ∃ report, s.compareHeights refs (.int 4) = .ok report ∧ report.verdict = .agreement ∧
      report.contractDivergences.map (·.slot) = [.variableSlot ⟨"c", "j"⟩,
        .mapSlot ⟨"c", "m", [8]⟩, .mapSlot ⟨"c", "m", [200]⟩] ∧
      (∃ (varSlots : List VariableSlot) (mapSlots : List MapSlot),
        varSlots.Pairwise VariableSlot.Before ∧ mapSlots.Pairwise MapSlot.Before ∧
        report.contractDivergences.map (·.slot) =
          varSlots.map .variableSlot ++ mapSlots.map .mapSlot) ∧
      ∃ other, (s.withRoots root).compareHeights refs (.int 4) = .ok other ∧
        other.verdict = .disagreement ∧ other.contractDivergences = report.contractDivergences := by
  intro payload steps s refs root
  have hs : s.Reachable := (Step.reachable_runAll (.new false) steps (by decide)).stores.1
  have hfacts : (s.compareHeights refs (.int 4)).map (fun report => (report.verdict,
      report.contractDivergences.map (·.slot))) = .ok (.agreement, [.variableSlot ⟨"c", "j"⟩,
        .mapSlot ⟨"c", "m", [8]⟩, .mapSlot ⟨"c", "m", [200]⟩]) := by
    decide +kernel
  have hroots : ((s.withRoots root).compareHeights refs (.int 4)).map (·.verdict) =
      .ok .disagreement := by
    decide +kernel
  obtain ⟨report, hreport, hfacts⟩ := exists_of_map_eq_ok hfacts
  obtain ⟨hverdict, hslots⟩ := Prod.mk.inj hfacts
  obtain ⟨-, ⟨-, varWrites, mapWrites, varSlots, mapSlots, -, hvars, hmaps, hlisted, -⟩, hother, -⟩ :=
    hs.contractDivergences_exact hreport
  obtain ⟨other, hcompared, hsame⟩ := hother root
  rw [hcompared] at hroots
  refine ⟨report, hreport, hverdict, hslots, ⟨varSlots, mapSlots, hvars.ascending, hmaps.ascending, ?_⟩,
    other, hcompared, Except.ok.inj hroots, hsame⟩
  rw [hlisted, List.map_append, List.map_map, List.map_map]
  rfl

end Store

end ReplayLedger
