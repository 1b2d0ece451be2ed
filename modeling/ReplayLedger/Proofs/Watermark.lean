import ReplayLedger.Proofs.Ownership
import ReplayLedger.Proofs.PayloadLog
import ReplayLedger.Proofs.Transactions

/-!
# The height that an environment has reached

The row of an environment carries the height of its last block, as a column of its own.  It stays in
step with the table of blocks (`Store.Watermarked`): the column is empty as long as there is no
block, and else it holds the greatest height.  Blocks are recorded at rising heights and get rising
ids, so their order by ids is their order by heights.

A *lifetime* of an environment (`Database.Onward`) is a run in which it is not dropped, with any
number of steps that fail, of transactions that are kept or aborted and of scopes that are open.  Its
blocks stay through a lifetime, so the height never falls, and a block at a height that was reached
before is refused with the height that is reached now.
-/

namespace ReplayLedger

/-! ## Histories climb -/

/-- Heights rise along the blocks, and the last one is the height that is reached. -/
structure History.Climbs (history : History) : Prop where
  rise : (history.blocks.map (·.height)).Pairwise (· < ·)
  reached : history.maxHeight = (history.blocks.map (·.height)).getLast?

/-- A history goes on climbing with a block that advances it. -/
lemma History.Climbs.concat {history : History} (h : history.Climbs) (facts : BlockFacts)
    (hadvances : ∀ reached, history.maxHeight = some reached → reached < facts.height) :
    Climbs { history with maxHeight := some facts.height, blocks := history.blocks ++ [facts] } := by
  rw [h.reached] at hadvances
  constructor
  · rw [List.map_append]
    exact rise_concat_of_getLast? h.rise hadvances
  · simp

namespace Store

variable {s s' : Store} {environment : Int}

/-- Every change lets the histories of all environments climb. -/
lemma climbs_of_change (hs : s.Consistent) (h : ∀ environment, (s.history environment).Climbs)
    (hchange : Change s s') (environment : Int) : (s'.history environment).Climbs := by
  have hs' := hs.change hchange
  cases hchange with
  | addEnvironment row _ _ idle =>
    rw [history_addEnvironment hs idle]
    exact h environment
  | addBlock row owner _ owned advances =>
    rw [history_addBlock environment hs row owned]
    by_cases hown : row.environmentId = environment
    · subst hown
      have hreached : (s.history row.environmentId).maxHeight = owner.maxHeight := by
        simp [history, owned]
      rw [← hreached] at advances
      simpa using (h row.environmentId).concat ⟨row.height, row.indexHash, row.trieRoot⟩ advances
    · simpa [hown] using h environment
  | drop dropped =>
    by_cases hdropped : environment = dropped
    · subst hdropped
      rw [history_dropped hs']
      exact ⟨.nil, rfl⟩
    · rw [history_drop hs hs' hdropped]
      exact h environment
  -- the other tables play no part in it
  | _ => exact ⟨(h environment).rise, (h environment).reached⟩

/-- In a reachable store the history of every environment climbs. -/
lemma Reachable.climbs (h : s.Reachable) (environment : Int) : (s.history environment).Climbs := by
  have hempty (environment : Int) : (Store.empty.history environment).Climbs := by
    rw [history_of_absent consistent_empty nofun]
    exact ⟨.nil, rfl⟩
  have hinvariant := h.induct
    (P := fun s => s.Consistent ∧ ∀ environment, (s.history environment).Climbs)
    ⟨consistent_empty, hempty⟩ fun hchange h => ⟨h.1.change hchange, climbs_of_change h.1 h.2 hchange⟩
  exact hinvariant.2 environment

/-! ## The column and the table -/

/-- The height in the row of an environment is the greatest one of its blocks, if there are any, and
the order of its blocks by ids is their order by heights. -/
structure Watermarked (s : Store) (owner : Environment) : Prop where
  none_iff : owner.maxHeight = none ↔ (s.ownedBy owner.id).blocks = []
  greatest {reached : Int} : owner.maxHeight = some reached →
    (∃ block ∈ (s.ownedBy owner.id).blocks, block.height = reached) ∧
      ∀ block ∈ (s.ownedBy owner.id).blocks, block.height ≤ reached
  sameOrder : (s.ownedBy owner.id).blocks.mergeSort (fun a b => a.id ≤ b.id) =
    (s.ownedBy owner.id).blocks.mergeSort fun a b => a.height ≤ b.height
  rise : (((s.ownedBy owner.id).blocks.mergeSort fun a b => a.height ≤ b.height).map
    (·.height)).Pairwise (· < ·)

/-- The history of an environment shows its blocks, one for one. -/
lemma map_height_ownedBy : (s.ownedBy environment).blocks.map (·.height) =
    (s.history environment).blocks.map (·.height) := by
  unfold ownedBy history Table.view under
  simp only [Table.blocks, List.filterMap_eq_map']
  simp [List.filter_map, Function.comp_def]

/-- An environment that exists has reached the height of its history. -/
lemma Consistent.maxHeight_history (hs : s.Consistent) {owner : Environment}
    (howner : owner ∈ s.environments) : (s.history owner.id).maxHeight = owner.maxHeight := by
  simp [history, hs.environment?_eq_some.2 ⟨howner, rfl⟩]

/-- The latest height of an environment that exists is the one in its row. -/
lemma Consistent.latestHeight_eq (hs : s.Consistent) {owner : Environment}
    (howner : owner ∈ s.environments) : s.latestHeight owner.id = .ok owner.maxHeight := by
  have owned := hs.environment?_eq_some.2 ⟨howner, rfl⟩
  rw [latestHeight, getEnvironment, storableId_of_find? owned, owned]
  rfl

/-- A history that climbs keeps the row of its environment in step with the table of blocks. -/
lemma Consistent.watermarked (hs : s.Consistent) {owner : Environment} (howner : owner ∈ s.environments)
    (hclimbs : (s.history owner.id).Climbs) : s.Watermarked owner := by
  have hheights : ((s.ownedBy owner.id).blocks.map (·.height)).Pairwise (· < ·) := by
    rw [map_height_ownedBy]
    exact hclimbs.rise
  have hids : ((s.ownedBy owner.id).blocks.map (·.id)).Pairwise (· < ·) := rise_filter _ hs.ids.blocks
  have hreached : owner.maxHeight = ((s.ownedBy owner.id).blocks.map (·.height)).getLast? := by
    rw [← hs.maxHeight_history howner, map_height_ownedBy, hclimbs.reached]
  -- ids and heights rise together: sorting by either leaves the blocks as they stand
  have hbyHeight : (s.ownedBy owner.id).blocks.mergeSort (fun a b => a.height ≤ b.height) =
      (s.ownedBy owner.id).blocks :=
    List.mergeSort_of_pairwise ((List.pairwise_map.1 hheights).imp fun hlt =>
      decide_eq_true (Int.le_of_lt hlt))
  have hbyId : (s.ownedBy owner.id).blocks.mergeSort (fun a b => a.id ≤ b.id) =
      (s.ownedBy owner.id).blocks :=
    List.mergeSort_of_pairwise ((List.pairwise_map.1 hids).imp fun hlt =>
      decide_eq_true (Int.le_of_lt hlt))
  refine ⟨?_, ?_, hbyId.trans hbyHeight.symm, by rwa [hbyHeight]⟩
  · rw [hreached, List.getLast?_eq_none_iff, List.map_eq_nil_iff]
  · intro reached hlast
    rw [hreached] at hlast
    obtain ⟨block, hblock, hheight⟩ := List.mem_map.1 (List.mem_of_getLast? hlast)
    exact ⟨⟨block, hblock, hheight⟩, fun block hblock =>
      le_getLast?_of_rise hheights hlast (List.mem_map_of_mem hblock)⟩

/-! ## Blocks that are recorded and refused -/

/-- Facts that were taken out of raw values are taken out again. -/
lemma ofValues_facts {height indexHash trieRoot : Value} {facts : BlockFacts}
    (h : BlockFacts.ofValues height indexHash trieRoot = .ok facts) :
    BlockFacts.ofValues (.int facts.height) (.bytes facts.indexHash) (.bytes facts.trieRoot) =
      .ok facts := by
  simp only [BlockFacts.ofValues, Argument.height, Argument.nonEmptyBytes, bind_eq_ok, ensure_eq_ok,
    pure_eq_ok] at h
  obtain ⟨_, ⟨n, -, -, hpos, rfl⟩, _, ⟨i, -, -, hindex, rfl⟩, _, ⟨r, -, -, hroot, rfl⟩, rfl⟩ := h
  simp [BlockFacts.ofValues, height_int, nonEmptyBytes_bytes, ensure, hpos, hindex, hroot]

/-- Recording a block depends on its facts alone. -/
lemma recordBlock_of_ofValues {height indexHash trieRoot : Value} {facts : BlockFacts}
    (h : BlockFacts.ofValues height indexHash trieRoot = .ok facts) :
    s.recordBlock environment height indexHash trieRoot =
      s.recordBlock environment (.int facts.height) (.bytes facts.indexHash)
        (.bytes facts.trieRoot) := by
  rw [recordBlock, h, recordBlock, ofValues_facts h]

/-- A block at a height that its environment has reached is refused. -/
lemma recordBlock_of_reached {height indexHash trieRoot : Value} {facts : BlockFacts}
    (h : BlockFacts.ofValues height indexHash trieRoot = .ok facts) {owner : Environment}
    (owned : s.environment? environment = some owner) {reached : Int}
    (hreached : owner.maxHeight = some reached) (hle : facts.height ≤ reached) :
    s.recordBlock environment height indexHash trieRoot =
      .error (.heightNotAdvancing owner.id facts.height reached) := by
  have hadvances : owner.advances facts.height =
      .error (.heightNotAdvancing owner.id facts.height reached) := by
    rw [Environment.advances, hreached]
    exact if_neg (Int.not_lt.2 hle)
  rw [recordBlock, h, ok_bind, checkBlock, storableId_of_find? owned, owned]
  simp only [require, ok_bind, hadvances]
  rfl

end Store

/-- A call that is to record a block of an environment at a height, with arguments that are well
formed. -/
inductive Call.RecordsAt (s : Store) (environment : Int) : Int → Call → Prop
  | recordBlock {height indexHash trieRoot : Value} {facts : BlockFacts}
    (wellFormed : BlockFacts.ofValues height indexHash trieRoot = .ok facts) :
    RecordsAt s environment facts.height (.recordBlock environment height indexHash trieRoot)
  | applyBlock {raw : Value} {payload : BlockPayload} {owner : Environment}
    (checked : BlockPayload.ofValue raw = .ok payload)
    (named : s.resolve payload.environment = .ok owner) (own : owner.id = environment)
    (wellFormed : BlockFacts.ofValues (.int payload.height) (.bytes payload.indexHash)
      (.bytes payload.trieRoot) = .ok payload.facts) :
    RecordsAt s environment payload.height (.applyBlock raw)

namespace Store.Consistent

open Call

variable {s s' : Store} {owner : Environment} {height : Int} {c : Call}

/-- A block that is recorded sets the height that its environment has reached. -/
lemma maxHeight_of_recordsAt (hs : s.Consistent) (howner : owner ∈ s.environments)
    (hrecords : c.RecordsAt s owner.id height) {answer : Json} (h : c.run s = .ok (answer, s')) :
    (s'.history owner.id).maxHeight = some height := by
  cases hrecords with
  | @recordBlock _ _ _ facts wellFormed =>
    obtain ⟨id, h⟩ := written_eq_ok h
    have hagrees := hs.recordBlock_agrees (hs.environment?_eq_some.2 ⟨howner, rfl⟩) facts
    rw [← recordBlock_of_ofValues wellFormed, h] at hagrees
    obtain ⟨history, hrecord, hgrows, -⟩ := hagrees.of_accepted
    rw [hgrows.own]
    simp only [History.recordBlock, bind_eq_ok, demand_eq_ok, pure_eq_ok] at hrecord
    obtain ⟨-, -, -, -, -, -, -, -, -, -, -, -, -, -, rfl⟩ := hrecord
    rfl
  | applyBlock checked named own =>
    obtain ⟨id, h⟩ := written_eq_ok h
    rw [applyBlock, checked, ok_bind] at h
    have hagrees := hs.applyPayload_agrees named
    rw [h] at hagrees
    obtain ⟨history, happly, hgrows⟩ := hagrees.of_accepted
    rw [← own, hgrows.own, (History.eq_append_of_apply happly).1]
    rfl

/-- A block at a height that its environment has reached is refused, also at the head of a
payload. -/
lemma refused_of_recordsAt (hs : s.Consistent) (howner : owner ∈ s.environments)
    (hrecords : c.RecordsAt s owner.id height) {reached : Int}
    (hreached : owner.maxHeight = some reached) (hle : height ≤ reached) :
    c.run s = .error (.heightNotAdvancing owner.id height reached) := by
  have owned := hs.environment?_eq_some.2 ⟨howner, rfl⟩
  cases hrecords with
  | recordBlock wellFormed =>
    rw [Call.run, recordBlock_of_reached wellFormed owned hreached hle]
    rfl
  | @applyBlock _ payload target checked named own wellFormed =>
    have hrefused := recordBlock_of_reached wellFormed owned hreached hle
    rw [Call.run, applyBlock, checked, ok_bind, applyPayload, named, ok_bind, own, hrefused]
    rfl

end Store.Consistent

/-! ## Lifetimes -/

mutual

/-- A step that drops an environment and is not undone. -/
def Step.drops (environment : Int) : Step → Bool
  | .call (.dropEnvironment id) => id = environment
  | .transaction steps abort => !abort && anyDrops environment steps
  | .writing _ steps => anyDrops environment steps
  | _ => false

/-- Steps of which one drops an environment and is not undone. -/
def Step.anyDrops (environment : Int) : List Step → Bool
  | [] => false
  | step :: rest => step.drops environment || anyDrops environment rest

end

mutual

/-- The rows that an environment owns stay through a step that does not drop it. -/
lemma Step.appends_ownedBy_run {db : Database} (hdb : db.Reachable) {environment : Int} :
    ∀ step : Step, step.isHarmless → step.keepsOpen → step.drops environment = false →
      Store.Appends (db.tables.ownedBy environment) ((step.run db).2.tables.ownedBy environment)
  | .call c, _, _, hkeep => by
    have hcall : c ≠ .dropEnvironment environment := by
      rintro rfl
      simp [Step.drops] at hkeep
    rw [Step.snd_run_call]
    exact hdb.appends_ownedBy hcall
  | .rowCounts, _, _, _ => .refl _
  | .tables, _, _, _ => .refl _
  | .describe table id, _, _, _ => by
    rw [Step.snd_run_describe]
    exact .refl _
  | .overwriteMaxHeight _ _, h, _, _ => by simp [Step.isHarmless] at h
  | .reopen, _, h, _ => by simp [Step.keepsOpen] at h
  | .transaction steps abort, hharmless, hopen, hkeep => by
    have hsteps := Step.onTables_runAll steps hopen
    cases abort with
    | true =>
      rw [Step.run_transaction_aborted hsteps]
      exact .refl _
    | false =>
      rw [Step.run_transaction_kept hsteps]
      exact Step.appends_ownedBy_runAll hdb steps hharmless hopen (by simpa [Step.drops] using hkeep)
  | .writing _ steps, hharmless, hopen, hkeep =>
    Step.appends_ownedBy_runAll hdb steps hharmless hopen hkeep

/-- The rows that an environment owns stay through steps that do not drop it. -/
lemma Step.appends_ownedBy_runAll {db : Database} (hdb : db.Reachable) {environment : Int} :
    ∀ steps : List Step, Step.areHarmless steps → Step.keepOpen steps →
      Step.anyDrops environment steps = false →
      Store.Appends (db.tables.ownedBy environment)
        ((Step.runAll db steps).2.tables.ownedBy environment)
  | [], _, _, _ => .refl _
  | step :: rest, hharmless, hopen, hkeep => by
    obtain ⟨hstep, hrest⟩ : step.isHarmless = true ∧ Step.areHarmless rest = true := by
      simpa [Step.areHarmless] using hharmless
    obtain ⟨hstep', hrest'⟩ : step.keepsOpen = true ∧ Step.keepOpen rest = true := by
      simpa [Step.keepOpen] using hopen
    obtain ⟨hstep'', hrest''⟩ : step.drops environment = false ∧
        Step.anyDrops environment rest = false := by
      simpa [Step.anyDrops] using hkeep
    exact (Step.appends_ownedBy_run hdb step hstep hstep' hstep'').trans
      (Step.appends_ownedBy_runAll (Step.reachable_run hdb step hstep) rest hrest hrest' hrest'')

end

namespace Database

/-- A run in the lifetime of an environment: steps that do not drop it, with scopes that are opened
and kept on the way. -/
inductive Onward (environment : Int) (db : Database) : Database → Prop
  | refl : Onward environment db db
  | step {db' : Database} (step : Step) (harmless : step.isHarmless) (staysOpen : step.keepsOpen)
    (kept : step.drops environment = false) :
    Onward environment db db' → Onward environment db (step.run db').2
  | openScope {db' : Database} : Onward environment db db' → Onward environment db db'.openScope
  | commit {db' : Database} : Onward environment db db' → Onward environment db db'.commit
  /-- A database that outlives its closing, without open scopes. -/
  | reopen {db' : Database} (persistent : db'.persistent = true) (idle : db'.saved = []) :
    Onward environment db db' → Onward environment db db'.reopen

variable {db db' : Database} {environment : Int}

/-- In a reachable database the rows of environments are in step with the table of blocks. -/
lemma Reachable.watermarked (hdb : db.Reachable) {owner : Environment}
    (howner : owner ∈ db.tables.environments) : db.tables.Watermarked owner := by
  have hstore := hdb.stores.1
  exact hstore.consistent.watermarked howner (hstore.climbs owner.id)

/-- Going on from a reachable database leads to reachable ones. -/
lemma Onward.reachable (h : Onward environment db db') (hdb : db.Reachable) : db'.Reachable := by
  induction h with
  | refl => exact hdb
  | step step harmless _ _ _ ih => exact Step.reachable_run ih step harmless
  | openScope _ ih => exact ih.openScope
  | commit _ ih => exact ih.commit
  | reopen _ _ _ ih => exact ih.reopen

/-- The rows that an environment owns stay through its lifetime. -/
lemma Onward.appends_ownedBy (h : Onward environment db db') (hdb : db.Reachable) :
    Store.Appends (db.tables.ownedBy environment) (db'.tables.ownedBy environment) := by
  induction h with
  | refl => exact .refl _
  | step step harmless staysOpen kept honward ih =>
    exact ih.trans (Step.appends_ownedBy_run (honward.reachable hdb) step harmless staysOpen kept)
  | openScope _ ih => exact ih
  | commit _ ih => exact ih
  | reopen persistent idle _ ih =>
    rw [reopen_of_persistent _ persistent idle]
    exact ih

/-- An environment stays through its lifetime, with a height that never falls. -/
lemma Onward.exists_environment {owner : Environment} (h : Onward owner.id db db') (hdb : db.Reachable)
    (howner : owner ∈ db.tables.environments) :
    ∃ owner' ∈ db'.tables.environments, owner'.identity = owner.identity ∧
      ∀ height, owner.maxHeight = some height →
        ∃ reached, owner'.maxHeight = some reached ∧ height ≤ reached := by
  have hdb' := h.reachable hdb
  have happends := h.appends_ownedBy hdb
  obtain ⟨owner', howner', hidentity⟩ := happends.exists_owner howner
  have hid : owner'.id = owner.id := Environment.id_eq_of_identity hidentity
  refine ⟨owner', howner', hidentity, fun height hheight => ?_⟩
  have hmark := hdb.watermarked howner
  have hmark' := hdb'.watermarked howner'
  -- the block at the height is still there
  obtain ⟨⟨block, hblock, rfl⟩, -⟩ := hmark.greatest hheight
  have hblock' : block ∈ (db'.tables.ownedBy owner'.id).blocks := by
    rw [hid]
    exact happends.blocks.subset hblock
  cases hreached : owner'.maxHeight with
  | none =>
    rw [hmark'.none_iff.1 hreached] at hblock'
    cases hblock'
  | some reached => exact ⟨reached, rfl, (hmark'.greatest hreached).2 block hblock'⟩

/-- A block that was recorded has set the height of its environment. -/
lemma Reachable.exists_environment_of_recordsAt (hdb : db.Reachable) {owner : Environment}
    (howner : owner ∈ db.tables.environments) {c : Call} {height : Int} {answer : Json}
    (hrecords : c.RecordsAt db.tables owner.id height) (hanswer : (c.script.run db).1 = .ok answer) :
    ∃ owner' ∈ (c.script.run db).2.tables.environments,
      owner'.id = owner.id ∧ owner'.maxHeight = some height := by
  have hkeep : c ≠ .dropEnvironment owner.id := by
    rintro rfl
    cases hrecords
  obtain ⟨owner', howner', hidentity⟩ := (hdb.appends_ownedBy hkeep).exists_owner howner
  have hid : owner'.id = owner.id := Environment.id_eq_of_identity hidentity
  refine ⟨owner', howner', hid, ?_⟩
  rw [← (hdb.call c).stores.1.consistent.maxHeight_history howner', hid]
  rcases c.script_cases db with ⟨answer', tables, hrun, hscript⟩ | ⟨e, -, hscript⟩
  · rw [hscript]
    exact hdb.stores.1.consistent.maxHeight_of_recordsAt howner hrecords hrun
  · rw [hscript] at hanswer
    cases hanswer

/-- In every reachable database the height of an environment is that of its last block, and its
blocks are in order.  Through its lifetime the height never falls; and after a block was recorded, any
other one at its height or below is refused, with the height that is reached by then. -/
theorem Reachable.watermark_law (hdb : db.Reachable) {owner : Environment}
    (howner : owner ∈ db.tables.environments) :
    db.tables.Watermarked owner ∧
      (∀ db', Onward owner.id db db' → ∃ owner' ∈ db'.tables.environments,
        owner'.identity = owner.identity ∧ ∀ height, owner.maxHeight = some height →
          ∃ reached, owner'.maxHeight = some reached ∧ height ≤ reached) ∧
      ∀ (c : Call) (height : Int) (answer : Json), c.RecordsAt db.tables owner.id height →
        (c.script.run db).1 = .ok answer →
        ∀ db', Onward owner.id (c.script.run db).2 db' →
          ∃ reached, db'.tables.latestHeight owner.id = .ok (some reached) ∧ height ≤ reached ∧
            ∀ (c' : Call) (height' : Int), c'.RecordsAt db'.tables owner.id height' →
              height' ≤ reached →
              c'.script.run db' = (.error (.heightNotAdvancing owner.id height' reached), db') := by
  refine ⟨hdb.watermarked howner, fun db' honward => honward.exists_environment hdb howner, ?_⟩
  intro c height answer hrecords hanswer db' honward
  obtain ⟨recorded, hrecorded, hid, hheight⟩ :=
    hdb.exists_environment_of_recordsAt howner hrecords hanswer
  rw [← hid] at honward
  obtain ⟨owner', howner', hidentity, hclimbs⟩ := honward.exists_environment (hdb.call c) hrecorded
  obtain ⟨reached, hreached, hle⟩ := hclimbs height hheight
  have hs' := (honward.reachable (hdb.call c)).stores.1.consistent
  have hid' : owner.id = owner'.id := (hid.symm.trans (Environment.id_eq_of_identity hidentity).symm)
  rw [hid']
  refine ⟨reached, by rw [hs'.latestHeight_eq howner', hreached], hle, ?_⟩
  intro c' height' hrecords' hle'
  rw [c'.script_eq_change]
  exact Script.run_change_of_error (hs'.refused_of_recordsAt howner' hrecords' hreached hle')

/-- An environment that has the id of one that was dropped begins anew, below the height of the old
one.  A block of it is undone and another one is kept; then the first height is refused. -/
theorem watermark_law_of_reused_id :
    let payload (name : String) (height : Int) : Value :=
      .record [("environment", .text name), ("height", .int height), ("index_hash", .bytes [1]),
        ("trie_root_hash", .bytes [2])]
    let record (height : Int) : Call :=
      .recordBlock 1 (.int height) (.bytes [height.toNat.toUInt8]) (.bytes [2])
    let setUp : List Step :=
      [.call (.createEnvironment (.text "a") (.int 1) (.text "/a")),
        .call (.applyBlock (payload "a" 4)), .call (.dropEnvironment 1),
        .call (.createEnvironment (.text "b") (.int 1) (.text "/b"))]
    let db := (Step.runAll {} setUp).2
    let between : Step :=
      .writing 1 [.transaction [.call (record 9)] true, .transaction [.call (record 7)] false]
    let db' := (Step.run ((record 3).script.run db).2 between).2
    db.tables.latestHeight 1 = .ok none ∧ db.tables.Watermarked ⟨1, "b", .interpreter, "/b", none⟩ ∧
      db'.tables.latestHeight 1 = .ok (some 7) ∧
      (Call.applyBlock (payload "b" 3)).script.run db' =
        (.error (.heightNotAdvancing 1 3 7), db') := by
  intro payload record setUp db between db'
  have hdb : db.Reachable := Step.reachable_runAll (.new false) setUp (by decide)
  have howner : (⟨1, "b", .interpreter, "/b", none⟩ : Environment) ∈ db.tables.environments := by
    decide +kernel
  have hlaw := hdb.watermark_law howner
  have hok : ((record 3).script.run db).1.isOk = true := by decide +kernel
  obtain ⟨answer, hanswer⟩ : ∃ answer, ((record 3).script.run db).1 = .ok answer := by
    cases hrun : ((record 3).script.run db).1 with
    | ok answer => exact ⟨answer, rfl⟩
    | error e =>
      rw [hrun] at hok
      cases hok
  have honward : Onward 1 ((record 3).script.run db).2 db' :=
    .step between (by decide) (by decide) (by decide) .refl
  have hlatest : db'.tables.latestHeight 1 = .ok (some 7) := by decide +kernel
  have hfacts : BlockFacts.ofValues (.int 3) (.bytes [3]) (.bytes [2]) = .ok ⟨3, [3], [2]⟩ := rfl
  obtain ⟨reached, hreached, -, hrefused⟩ :=
    hlaw.2.2 (record 3) 3 answer (.recordBlock hfacts) hanswer db' honward
  obtain rfl : reached = 7 := by
    rw [hlatest] at hreached
    cases hreached
    rfl
  have hchecked : BlockPayload.ofValue (payload "b" 3) =
      .ok { environment := .name "b", height := 3, indexHash := [1], trieRoot := [2] } := by
    decide +kernel
  have hnamed : db'.tables.resolve (.name "b") = .ok ⟨1, "b", .interpreter, "/b", some 7⟩ := by
    decide +kernel
  exact ⟨by decide +kernel, hlaw.1, hlatest,
    hrefused _ 3 (.applyBlock hchecked hnamed rfl rfl) (by decide)⟩

end Database

end ReplayLedger
