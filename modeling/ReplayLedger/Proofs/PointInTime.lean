import ReplayLedger.Proofs.Series
import ReplayLedger.Proofs.Answers

/-!
# Reads at a height

What a variable or a key of a map held at a height is told by the calls that wrote it: of those at
blocks that are not above the height it is the one at the highest block, and of several at this block
the last one made.  `IsLatest` says so of any items with heights, in the order in which they came.

Of the rows, a read compares the copied heights and then the ids.  The heights are those of the blocks
(`Consistent.heightOf_instance`, `Consistent.heightOf_mapEntry`), and the ids rise along the table, so
the rows come in the order of the calls.  For maps no ids are compared, but no two entries of one key
have one height (`Consistent.nodup_mapHeights`), so the order of the rows does not count.

Main statements: `Database.Chronicle.latest_recording` and `Database.Chronicle.latest_insertion`.
-/

namespace ReplayLedger

/-! ## The latest item -/

section Latest

variable {α β : Type} {height : α → Int} {asOf : Int} {items : List α} {best : Option α} {item : α}

/-- The last of the items at the greatest height that is not above a bound.  There is none only if all
items are above it. -/
def IsLatest (height : α → Int) (asOf : Int) (items : List α) : Option α → Prop
  | none => ∀ item ∈ items, asOf < height item
  | some item => height item ≤ asOf ∧ ∃ earlier later, items = earlier ++ item :: later ∧
      (∀ other ∈ earlier, height other ≤ asOf → height other ≤ height item) ∧
      ∀ other ∈ later, height other ≤ asOf → height other < height item

namespace IsLatest

/-- The latest item is one of the items that are not above the bound, and no other of these is above
it. -/
lemma greatest (h : IsLatest height asOf items (some item)) :
    item ∈ items ∧ height item ≤ asOf ∧
      ∀ other ∈ items, height other ≤ asOf → height other ≤ height item := by
  obtain ⟨hle, earlier, later, rfl, hearlier, hlater⟩ := h
  refine ⟨by simp, hle, fun other hmem hother => ?_⟩
  rcases List.mem_append.1 hmem with hmem | hmem
  · exact hearlier other hmem hother
  · rcases List.mem_cons.1 hmem with rfl | hmem
    · exact Int.le_refl _
    · exact Int.le_of_lt (hlater other hmem hother)

/-- There is no latest item exactly if all of them lie above the height. -/
lemma eq_none_iff (h : IsLatest height asOf items best) :
    best = none ↔ ∀ item ∈ items, asOf < height item := by
  cases best with
  | none => exact iff_of_true rfl h
  | some item =>
    obtain ⟨hmem, hle, -⟩ := h.greatest
    exact iff_of_false (by simp) fun habove => Int.not_lt.2 hle (habove item hmem)

/-- An item above the bound does not count. -/
lemma skip (h : IsLatest height asOf items best) (habove : asOf < height item) :
    IsLatest height asOf (items ++ [item]) best := by
  cases best with
  | none =>
    intro other hmem
    rcases List.mem_append.1 hmem with hmem | hmem
    · exact h other hmem
    · rwa [List.mem_singleton.1 hmem]
  | some best =>
    obtain ⟨hle, earlier, later, rfl, hearlier, hlater⟩ := h
    refine ⟨hle, earlier, later ++ [item], by simp, hearlier, fun other hmem hother => ?_⟩
    rcases List.mem_append.1 hmem with hmem | hmem
    · exact hlater other hmem hother
    · rw [List.mem_singleton.1 hmem] at hother
      omega

/-- An item below the latest one does not take its place. -/
lemma stay {best : α} (h : IsLatest height asOf items (some best))
    (hbelow : height item < height best) : IsLatest height asOf (items ++ [item]) (some best) := by
  obtain ⟨hle, earlier, later, rfl, hearlier, hlater⟩ := h
  refine ⟨hle, earlier, later ++ [item], by simp, hearlier, fun other hmem hother => ?_⟩
  rcases List.mem_append.1 hmem with hmem | hmem
  · exact hlater other hmem hother
  · rwa [List.mem_singleton.1 hmem]

/-- An item that is not above the bound and not below the latest one takes its place. -/
lemma take (h : IsLatest height asOf items best) (hle : height item ≤ asOf)
    (hbest : ∀ other ∈ best, height other ≤ height item) :
    IsLatest height asOf (items ++ [item]) (some item) := by
  refine ⟨hle, items, [], rfl, fun other hmem hother => ?_, nofun⟩
  cases best with
  | none => exact absurd (h other hmem) (Int.not_lt.2 hother)
  | some best =>
    exact Int.le_trans (h.greatest.2.2 other hmem hother) (hbest best rfl)

/-- What items tell of is latest where the items are. -/
lemma map {f : α → β} {height' : β → Int} (h : IsLatest height asOf items best)
    (hf : ∀ item ∈ items, height' (f item) = height item) :
    IsLatest height' asOf (items.map f) (best.map f) := by
  cases best with
  | none =>
    intro told hmem
    obtain ⟨item, hitem, rfl⟩ := List.mem_map.1 hmem
    rw [hf item hitem]
    exact h item hitem
  | some best =>
    obtain ⟨hle, earlier, later, rfl, hearlier, hlater⟩ := h
    have hbest := hf best (by simp)
    refine ⟨hbest ▸ hle, earlier.map f, later.map f, by simp, ?_, ?_⟩
    · intro told hmem
      obtain ⟨other, hother, rfl⟩ := List.mem_map.1 hmem
      rw [hf other (by simp [hother]), hbest]
      exact hearlier other hother
    · intro told hmem
      obtain ⟨other, hother, rfl⟩ := List.mem_map.1 hmem
      rw [hf other (by simp [hother]), hbest]
      exact hlater other hother

/-- Under a greater bound there is a latest item too, and it is not below. -/
lemma mono {asOf' : Int} {best' : Option α} (h : IsLatest height asOf items (some item))
    (h' : IsLatest height asOf' items best') (hle : asOf ≤ asOf') :
    ∃ later, best' = some later ∧ height item ≤ height later := by
  obtain ⟨hmem, hitem, -⟩ := h.greatest
  cases best' with
  | none => exact absurd (h' item hmem) (Int.not_lt.2 (Int.le_trans hitem hle))
  | some later => exact ⟨later, rfl, h'.greatest.2.2 item hmem (Int.le_trans hitem hle)⟩

/-- Where no two items have one height, the latest one is the greatest. -/
lemma eq_some_iff (h : IsLatest height asOf items best)
    (hinj : ∀ a ∈ items, ∀ b ∈ items, height a = height b → a = b) :
    best = some item ↔ item ∈ items ∧ height item ≤ asOf ∧
      ∀ other ∈ items, height other ≤ asOf → height other ≤ height item := by
  refine ⟨fun hbest => (hbest ▸ h).greatest, fun ⟨hmem, hle, hgreatest⟩ => ?_⟩
  cases best with
  | none => exact absurd (h item hmem) (Int.not_lt.2 hle)
  | some best =>
    obtain ⟨hbest, hbestLe, hbestGreatest⟩ := h.greatest
    have hsame := Int.le_antisymm (hgreatest best hbest hbestLe) (hbestGreatest item hmem hle)
    rw [hinj best hbest item hmem hsame]

/-- Where no two items have one height, their order does not count. -/
lemma eq_of_perm {items' : List α} {best' : Option α} (h : IsLatest height asOf items best)
    (h' : IsLatest height asOf items' best') (hperm : items'.Perm items)
    (hinj : ∀ a ∈ items, ∀ b ∈ items, height a = height b → a = b) : best' = best := by
  cases best' with
  | none =>
    exact (h.eq_none_iff.2 fun item hmem => h' item (hperm.mem_iff.2 hmem)).symm
  | some item =>
    obtain ⟨hmem, hle, hgreatest⟩ := h'.greatest
    exact ((h.eq_some_iff hinj).2 ⟨hperm.mem_iff.1 hmem, hle,
      fun other hother => hgreatest other (hperm.mem_iff.2 hother)⟩).symm

end IsLatest

/-- One more item is the greatest if the one before lies below it. -/
lemma greatest?_concat (below : α → α → Bool) (items : List α) (item : α) :
    greatest? below (items ++ [item]) = some (match greatest? below items with
      | none => item
      | some best => if below best item then item else best) := by
  cases items with
  | nil => rfl
  | cons first rest => simp [greatest?]

/-- The item that is chosen is the latest one, if a comparison lets the later of two items at one
height pass. -/
lemma isLatest_greatest? {below : α → α → Bool} (asOf : Int)
    (hbelow : items.Pairwise fun a b => below a b = decide (height a ≤ height b)) :
    IsLatest height asOf items (greatest? below (items.filter fun item => height item ≤ asOf)) := by
  rw [greatest?_congr (hbelow.filter _)]
  clear hbelow
  -- on the rows from the last: one more row is above the height, or passes the best, or does not
  induction items using List.reverseRecOn with
  | nil => exact nofun
  | append_singleton items item ih =>
    rw [List.filter_append]
    by_cases hle : height item ≤ asOf
    · rw [List.filter_cons_of_pos (by simpa using hle), List.filter_nil, greatest?_concat]
      cases hbest : greatest? (fun a b => decide (height a ≤ height b))
          (items.filter fun item => height item ≤ asOf) with
      | none =>
        rw [hbest] at ih
        exact ih.take hle nofun
      | some best =>
        rw [hbest] at ih
        by_cases hpass : height best ≤ height item
        · simp only [hpass, decide_true, if_true]
          exact ih.take hle fun other hother => Option.some.inj hother ▸ hpass
        · simp only [hpass, decide_false]
          exact ih.stay (Int.not_le.1 hpass)
    · rw [List.filter_cons_of_neg (by simpa using hle), List.filter_nil, List.append_nil]
      exact ih.skip (Int.not_le.1 hle)

end Latest

/-! ## Heights of rows -/

namespace Store

variable {s : Store} {asOf : Int}

/-- The height of the block with an id. -/
def heightOf (s : Store) (block : Int) : Int := (s.place? block).elim 0 (·.2)

namespace Consistent

/-- A block in the table has a place, at its own height. -/
lemma heightOf_of_mem (hs : s.Consistent) {home : Block} (hhome : home ∈ s.blocks) :
    (s.place? home.id).isSome ∧ s.heightOf home.id = home.height := by
  rw [heightOf, hs.place?_of_mem hhome]
  exact ⟨rfl, rfl⟩

/-- A value of a variable lies at a block that exists, and its copy of the height is true. -/
lemma heightOf_instance (hs : s.Consistent) {row : VariableInstance} (hrow : row ∈ s.instances) :
    (s.place? row.blockId).isSome ∧ s.heightOf row.blockId = row.height := by
  obtain ⟨-, -, -, -, home, hhome, -, -, -, -, hid, -, -, -, -, hheight⟩ := hs.links.instances row hrow
  rw [← hid, hheight]
  exact hs.heightOf_of_mem hhome

/-- A map entry lies at a block that exists, and its copy of the height is true. -/
lemma heightOf_mapEntry (hs : s.Consistent) {row : MapEntry} (hrow : row ∈ s.mapEntries) :
    (s.place? row.blockId).isSome ∧ s.heightOf row.blockId = row.height := by
  obtain ⟨-, -, -, -, home, hhome, -, -, hid, -, hheight⟩ := hs.links.mapEntries row hrow
  rw [← hid, hheight]
  exact hs.heightOf_of_mem hhome

/-- A map has at most one entry for a key at a height: its environment has one block there. -/
lemma nodup_mapHeights (hs : s.Consistent) :
    (s.mapEntries.map fun row => (row.mapId, row.keyHash, row.height)).Nodup := by
  refine List.Nodup.map_on (fun a ha b hb hsame => ?_) (nodup_of_rise hs.ids.mapEntries).of_map
  simp only [Prod.mk.injEq] at hsame
  obtain ⟨hmap, hkey, hheight⟩ := hsame
  obtain ⟨declared, hdeclared, owner, howner, home, hhome, hid, hownerId, hhomeId, howned, hat⟩ :=
    hs.links.mapEntries a ha
  obtain ⟨declared', hdeclared', owner', howner', home', hhome', hid', hownerId', hhomeId', howned',
    hat'⟩ := hs.links.mapEntries b hb
  -- the map gives the owner, the owner and the height give the block
  obtain rfl : declared = declared' :=
    List.inj_on_of_nodup_map (nodup_of_rise hs.ids.maps) hdeclared hdeclared'
      (hid.trans (hmap.trans hid'.symm))
  obtain rfl : owner = owner' :=
    List.inj_on_of_nodup_map (nodup_of_rise hs.ids.contracts) howner howner'
      (hownerId.trans hownerId'.symm)
  obtain rfl : home = home' :=
    List.inj_on_of_nodup_map hs.keys.blockHeights hhome hhome'
      (by simp [howned, howned', ← hat, ← hat', hheight])
  exact List.inj_on_of_nodup_map hs.keys.mapEntries ha hb
    (by simp [hmap, hkey, ← hhomeId, ← hhomeId'])

/-! ## What reads choose from -/

/-- A variable is read at a height from its rows that are not above. -/
lemma latestVariableValue_of_mem (hs : s.Consistent) {row : Variable} (hrow : row ∈ s.vars)
    (hpos : 0 ≤ asOf) (hstorable : Storable asOf) :
    s.latestVariableValue row.id (.int asOf) = .ok (greatest? VariableInstance.below
      ((Series.vars.rowsOf s row.id).filter fun found => found.height ≤ asOf)) := by
  obtain ⟨owner, howner, hid⟩ := hs.links.vars row hrow
  have hfound : s.instances.filter (fun found => found.variableId = row.id ∧ found.height ≤ asOf) =
      (Series.vars.rowsOf s row.id).filter fun found => found.height ≤ asOf := by
    rw [Series.rowsOf, List.filter_filter]
    refine List.filter_congr fun found _ => ?_
    rw [Bool.decide_and, Bool.and_comm]
    rfl
  rw [latestVariableValue_int (hs.variableName?_of_mem hrow howner hid) hpos hstorable, hfound]

/-- The latest row of a variable is found. -/
lemma latestVariableValue_isLatest (hs : s.Consistent) {row : Variable} (hrow : row ∈ s.vars)
    (hpos : 0 ≤ asOf) (hstorable : Storable asOf) :
    ∃ latest, s.latestVariableValue row.id (.int asOf) = .ok latest ∧
      IsLatest VariableInstance.height asOf (Series.vars.rowsOf s row.id) latest :=
  ⟨_, hs.latestVariableValue_of_mem hrow hpos hstorable,
    isLatest_greatest? asOf (hs.pairwise_below_instances.filter _)⟩

/-- The latest entry of a key of a map is found, in whatever order the rows are. -/
lemma latestMapEntry_isLatest (hs : s.Consistent) {row : ContractMap} (hrow : row ∈ s.maps)
    (key : Bytes) {rows : List MapEntry} (hrows : rows.Perm s.mapEntries) (hpos : 0 ≤ asOf)
    (hstorable : Storable asOf) :
    ∃ latest,
      { s with mapEntries := rows }.latestMapEntry row.id (.bytes key) (.int asOf) = .ok latest ∧
        IsLatest MapEntry.height asOf
          (rows.filter fun found => found.mapId = row.id ∧ found.keyHash = key) latest := by
  obtain ⟨owner, howner, hid⟩ := hs.links.maps row hrow
  have hname : { s with mapEntries := rows }.mapName? row.id = _ :=
    hs.mapName?_of_mem hrow howner hid
  -- no two entries of the key have one height, so it does not matter which of them would pass
  have hbelow : (rows.filter fun found => found.mapId = row.id ∧ found.keyHash = key).Pairwise
      fun a b => MapEntry.below a b = decide (a.height ≤ b.height) := by
    have hnodup := List.pairwise_map.1 ((hrows.map _).nodup_iff.2 hs.nodup_mapHeights)
    refine (hnodup.filter _).imp_of_mem fun {a b} ha hb hne => ?_
    simp only [List.mem_filter, decide_eq_true_eq] at ha hb
    simp only [MapEntry.below, intLt, decide_eq_decide]
    grind
  have hfound : rows.filter
        (fun found => found.mapId = row.id ∧ found.keyHash = key ∧ found.height ≤ asOf) =
      (rows.filter fun found => found.mapId = row.id ∧ found.keyHash = key).filter
        fun found => found.height ≤ asOf := by
    rw [List.filter_filter]
    refine List.filter_congr fun found _ => ?_
    simp [Bool.and_comm, Bool.and_assoc]
  refine ⟨_, ?_, isLatest_greatest? asOf hbelow⟩
  rw [latestMapEntry_int hname key hpos hstorable, ← hfound]

end Consistent

/-- Values that are recorded above a height leave what is read there. -/
lemma Reachable.latestVariableValue_of_above {s' : Store} {c : Call} {answer : Json}
    (hs : s.Reachable) (hrun : c.run s = .ok (answer, s')) {row : Variable} (hrow : row ∈ s.vars)
    (hrow' : row ∈ s'.vars) (hpos : 0 ≤ asOf) (hstorable : Storable asOf)
    (habove : ∀ call ∈ Series.vars.addedTo (c.accepted s) row.id, asOf < s'.heightOf call.block) :
    s'.latestVariableValue row.id (.int asOf) = s.latestVariableValue row.id (.int asOf) := by
  have hs' : s'.Consistent := (hs.call c hrun).consistent
  obtain ⟨new, hrows, hnew⟩ := Series.vars_lawful.rowsOf_run hs hrun
    (List.mem_map_of_mem hrow) (List.mem_map_of_mem hrow')
  have hskipped : new.filter (fun found => found.height ≤ asOf) = [] := by
    rw [List.filter_eq_nil_iff]
    intro found hfound
    have hmem : found ∈ s'.instances :=
      List.mem_of_mem_filter (hrows ▸ List.mem_append_right _ hfound)
    have hlt := habove found.recording (hnew ▸ List.mem_map_of_mem hfound)
    rw [VariableInstance.recording, (hs'.heightOf_instance hmem).2] at hlt
    simpa using hlt
  rw [hs'.latestVariableValue_of_mem hrow' hpos hstorable,
    hs.consistent.latestVariableValue_of_mem hrow hpos hstorable, hrows, List.filter_append,
    hskipped, List.append_nil]

end Store

/-! ## Reads and the calls before them -/

/-- The entries of a key are the calls for it, in the order in which they were made. -/
lemma Series.map_insertion {s : Store} {log : List Accepted} (h : Performs .empty log s)
    {row : ContractMap} (hrow : row ∈ s.maps) (key : Bytes) :
    (s.mapEntries.filter fun entry => entry.mapId = row.id ∧ entry.keyHash = key).map
        MapEntry.insertion =
      (Series.maps.callsFor log row.id).filter fun call => call.keyHash = key := by
  rw [← Series.maps_lawful.map_rowsOf h (List.mem_map_of_mem hrow), List.filter_map, rowsOf,
    List.filter_filter]
  refine congrArg (List.map MapEntry.insertion) (List.filter_congr fun entry _ => ?_)
  rw [Bool.decide_and, Bool.and_comm]
  rfl

namespace Database

variable {db : Database} {log : List Accepted} {saved : List (List Accepted)}

/-- What a variable held at a height is the latest of the calls that recorded a value of it: of those
at blocks that are not above, the one at the highest block, and of several there the last one made.
Calls that record values of it above the height change nothing, and what is read at a greater height
does not lie lower. -/
theorem Chronicle.latest_recording (h : db.Chronicle log saved) {row : Variable}
    (hrow : row ∈ db.tables.vars) {asOf : Int} (hpos : 0 ≤ asOf)
    (hrange : asOf < 0x8000000000000000) :
    let read (s : Store) (asOf : Int) := s.latestVariableValue row.id (.int asOf)
    let calls := Series.vars.callsFor log row.id
    (∀ call ∈ calls, (db.tables.place? call.block).isSome) ∧
      (∃ latest, read db.tables asOf = .ok latest ∧
        IsLatest (fun call => db.tables.heightOf call.block) asOf calls
          (latest.map VariableInstance.recording) ∧
        (latest = none ↔ ∀ call ∈ calls, asOf < db.tables.heightOf call.block) ∧
        ∀ found ∈ latest, found.height = db.tables.heightOf found.blockId) ∧
      (∀ c : Call, row ∈ (c.script.run db).2.tables.vars →
        (∀ call ∈ Series.vars.addedTo (c.accepted db.tables) row.id,
          asOf < (c.script.run db).2.tables.heightOf call.block) →
        read (c.script.run db).2.tables asOf = read db.tables asOf) ∧
      ∀ asOf' found, asOf ≤ asOf' → asOf' < 0x8000000000000000 →
        read db.tables asOf = .ok (some found) →
        ∃ found', read db.tables asOf' = .ok (some found') ∧ found.height ≤ found'.height := by
  intro read calls
  have hs := h.reachable.stores.1.consistent
  have hstorable : Storable asOf := ⟨by omega, hrange⟩
  have hcalls : (Series.vars.rowsOf db.tables row.id).map VariableInstance.recording = calls :=
    Series.vars_lawful.map_rowsOf h.performs.1 (List.mem_map_of_mem hrow)
  have hplaces (found) (hfound : found ∈ Series.vars.rowsOf db.tables row.id) :=
    hs.heightOf_instance (List.mem_of_mem_filter hfound)
  obtain ⟨latest, hread, hlatest⟩ := hs.latestVariableValue_isLatest hrow hpos hstorable
  have hlatestCall : IsLatest (fun call => db.tables.heightOf call.block) asOf calls
      (latest.map VariableInstance.recording) :=
    hcalls ▸ hlatest.map fun found hfound => (hplaces found hfound).2
  refine ⟨?_, ⟨latest, hread, hlatestCall, ?_, ?_⟩, ?_, ?_⟩
  · rw [← hcalls, List.forall_mem_map]
    exact fun found hfound => (hplaces found hfound).1
  · rw [← hlatestCall.eq_none_iff, Option.map_eq_none_iff]
  · intro found hfound
    rw [Option.mem_def.1 hfound] at hlatest
    exact (hplaces found hlatest.greatest.1).2.symm
  · intro c hrow' habove
    rcases c.script_cases db with ⟨answer, tables, hrun, hscript⟩ | ⟨e, -, hscript⟩
    · rw [hscript] at hrow' habove ⊢
      exact h.reachable.stores.1.latestVariableValue_of_above hrun hrow hrow' hpos hstorable habove
    · rw [hscript]
  · intro asOf' found hle hrange' hfound
    obtain ⟨latest', hread', hlatest'⟩ :=
      hs.latestVariableValue_isLatest hrow (Int.le_trans hpos hle) ⟨by omega, hrange'⟩
    obtain rfl : latest = some found := Except.ok.inj (hread.symm.trans hfound)
    obtain ⟨found', rfl, hheight⟩ := hlatest.mono hlatest' hle
    exact ⟨found', hread', hheight⟩

/-- A variable gets the id of one that was dropped.  A payload at a higher block writes it again before
two values are recorded at the lower block, with one between them that is undone. -/
theorem latest_recording_of_reused_id :
    let payload (height : Int) (value : UInt8) (deployed : List Value) : Value :=
      .record [("environment", .text "a"), ("height", .int height),
        ("index_hash", .bytes [height.toNat.toUInt8]), ("trie_root_hash", .bytes [0]),
        ("entries", .list []), ("contracts", .list deployed),
        ("executions", .list [.record [("contract", .text "c"), ("tx_id", .bytes [5])]]),
        ("variables", .list [.record [("contract", .text "c"), ("key", .text "k"),
          ("tx_id", .bytes [5]), ("value", .bytes [value])]]), ("maps", .list [])]
    let contract : Value := .record [("qualified_id", .text "c"), ("source", .bytes [])]
    let record (block : Int) (value : UInt8) : Call :=
      .recordVariableInstance 1 block block (.bytes [value])
    let before : List Call :=
      [.createEnvironment (.text "gone") (.int 1) (.text "/gone"),
        .recordBlock 1 (.int 3) (.bytes [1]) (.bytes [0]),
        .registerContract 1 (.text "c") (.bytes []), .recordExecution 1 1 (.bytes [5]),
        .declareVariable 1 (.text "k"), record 1 3, .dropEnvironment 1,
        .createEnvironment (.text "a") (.int 1) (.text "/a"),
        .applyBlock (payload 4 4 [contract]), .applyBlock (payload 9 9 []), record 1 5]
    let scope := (Step.runAll {} (before.map .call)).2.openScope
    let undone := (Step.runAll scope [.call (record 1 7)]).2.rollBack
    let db := (Step.runAll undone [.call (record 1 6)]).2
    let log := Call.acceptedAll {} before ++ Call.acceptedAll undone [record 1 6]
    let above := ((record 2 8).script.run db).2
    let read (db : Database) (asOf : Int) := db.tables.latestVariableValue 1 (.int asOf)
    db.Chronicle log [] ∧ Series.vars.callsFor log 1 =
        [⟨1, 1, 1, [4]⟩, ⟨2, 2, 2, [9]⟩, ⟨3, 1, 1, [5]⟩, ⟨4, 1, 1, [6]⟩] ∧
      ∃ found, read db 5 = .ok (some found) ∧ found.value = [6] ∧
        IsLatest (fun call => db.tables.heightOf call.block) 5 (Series.vars.callsFor log 1)
          (some found.recording) ∧
        (above.tables.instances.length = 5 ∧ read above 5 = read db 5) ∧
        ∃ found', read db 9 = .ok (some found') ∧ found.height ≤ found'.height := by
  intro payload contract record before scope undone db log above read
  have h : db.Chronicle log [] :=
    (((Chronicle.new false).calls before).openScope.calls [record 1 7]).rollBack.calls [record 1 6]
  have hrow : (⟨1, 1, "k"⟩ : Variable) ∈ db.tables.vars := by decide +kernel
  have hread : read db 5 = .ok (some ⟨4, 1, 1, 4, 1, [6]⟩) := by decide +kernel
  obtain ⟨-, ⟨latest, hlatest, hcall, -⟩, hlater, hmono⟩ :=
    h.latest_recording hrow (show (0 : Int) ≤ 5 by decide) (by decide)
  obtain rfl := Except.ok.inj (hread.symm.trans hlatest)
  exact ⟨h, by decide +kernel, _, hread, rfl, hcall,
    ⟨by decide +kernel, hlater (record 2 8) (by decide +kernel) (by decide +kernel)⟩,
    hmono 9 _ (by decide) (by decide) hread⟩

/-- In a map there is at most one entry for a key at a height.  What the map held for the key at a
height is therefore the same for any order of the rows: the entry at the greatest height that is not
above, which is what the call at the highest block put there. -/
theorem Chronicle.latest_insertion (h : db.Chronicle log saved) :
    (db.tables.mapEntries.map fun entry => (entry.mapId, entry.keyHash, entry.height)).Nodup ∧
      ∀ row ∈ db.tables.maps, ∀ (key : Bytes) (asOf : Int), 0 ≤ asOf → asOf < 0x8000000000000000 →
        let read (s : Store) := s.latestMapEntry row.id (.bytes key) (.int asOf)
        let entries := db.tables.mapEntries.filter
          fun entry => entry.mapId = row.id ∧ entry.keyHash = key
        let calls := (Series.maps.callsFor log row.id).filter fun call => call.keyHash = key
        (∀ call ∈ calls, (db.tables.place? call.block).isSome) ∧
          ∃ latest, read db.tables = .ok latest ∧
            (∀ rows, rows.Perm db.tables.mapEntries →
              read { db.tables with mapEntries := rows } = .ok latest) ∧
            (∀ entry, latest = some entry ↔ entry ∈ entries ∧ entry.height ≤ asOf ∧
              ∀ other ∈ entries, other.height ≤ asOf → other.height ≤ entry.height) ∧
            (latest = none ↔ ∀ entry ∈ entries, asOf < entry.height) ∧
            IsLatest (fun call => db.tables.heightOf call.block) asOf calls
              (latest.map MapEntry.insertion) := by
  have hs := h.reachable.stores.1.consistent
  refine ⟨hs.nodup_mapHeights, fun row hrow key asOf hpos hrange => ?_⟩
  intro read entries calls
  have hstorable : Storable asOf := ⟨by omega, hrange⟩
  have hcalls : entries.map MapEntry.insertion = calls :=
    Series.map_insertion h.performs.1 hrow key
  have hplaces (entry) (hentry : entry ∈ entries) :=
    hs.heightOf_mapEntry (List.mem_of_mem_filter hentry)
  have hinj : ∀ a ∈ entries, ∀ b ∈ entries, a.height = b.height → a = b := by
    intro a ha b hb hheight
    obtain ⟨ha, hkey⟩ := List.mem_filter.1 ha
    obtain ⟨hb, hkey'⟩ := List.mem_filter.1 hb
    simp only [decide_eq_true_eq] at hkey hkey'
    exact List.inj_on_of_nodup_map hs.nodup_mapHeights ha hb (by simp [hkey, hkey', hheight])
  obtain ⟨latest, hread, hlatest⟩ := hs.latestMapEntry_isLatest hrow key (.refl _) hpos hstorable
  refine ⟨?_, latest, hread, ?_, ?_, ?_, ?_⟩
  · rw [← hcalls, List.forall_mem_map]
    exact fun entry hentry => (hplaces entry hentry).1
  · intro rows hrows
    obtain ⟨latest', hread', hlatest'⟩ := hs.latestMapEntry_isLatest hrow key hrows hpos hstorable
    rw [← hlatest.eq_of_perm hlatest' (hrows.filter _) hinj]
    exact hread'
  · exact fun entry => hlatest.eq_some_iff hinj
  · exact hlatest.eq_none_iff
  · rw [← hcalls]
    exact hlatest.map fun entry hentry => (hplaces entry hentry).2

/-- Maps of two environments with entries for one key at one height, the first map with the id of one
that was dropped.  A payload puts an entry at a higher block before one is put at a lower block; a
second one there is refused, and one for the block below is undone. -/
theorem latest_insertion_of_reused_id :
    let payload (environment : String) (height : Int) (value : UInt8) (deployed : List Value) :
        Value :=
      .record [("environment", .text environment), ("height", .int height),
        ("index_hash", .bytes [height.toNat.toUInt8]), ("trie_root_hash", .bytes [0]),
        ("entries", .list []), ("contracts", .list deployed), ("executions", .list []),
        ("variables", .list []),
        ("maps", .list [.record [("contract", .text "c"), ("name", .text "m"),
          ("key_hash", .bytes [7]), ("value", .bytes [value])]])]
    let contract : Value := .record [("qualified_id", .text "c"), ("source", .bytes [])]
    let put (block : Int) (key value : UInt8) : Call :=
      .putMapEntry 1 block (.bytes [key]) (.bytes [value])
    let before : List Call :=
      [.createEnvironment (.text "gone") (.int 1) (.text "/gone"),
        .applyBlock (payload "gone" 3 3 [contract]), .dropEnvironment 1,
        .createEnvironment (.text "a") (.int 1) (.text "/a"),
        .createEnvironment (.text "b") (.int 2) (.text "/b"),
        .recordBlock 1 (.int 2) (.bytes [2]) (.bytes [0]),
        .applyBlock (payload "a" 4 4 [contract]),
        .recordBlock 1 (.int 6) (.bytes [6]) (.bytes [0]),
        .applyBlock (payload "a" 9 9 []), .applyBlock (payload "b" 6 1 [contract])]
    let after : List Call := [put 3 7 6, put 3 8 5, put 3 7 2]
    let scope := (Step.runAll {} (before.map .call)).2.openScope
    let undone := (Step.runAll scope [.call (put 1 7 1)]).2.rollBack
    let db := (Step.runAll undone (after.map .call)).2
    let log := Call.acceptedAll {} before ++ Call.acceptedAll undone after
    let read (s : Store) := s.latestMapEntry 1 (.bytes [7]) (.int 8)
    let calls := (Series.maps.callsFor log 1).filter fun call => call.keyHash = [7]
    db.Chronicle log [] ∧ calls = [⟨1, 2, [7], [4]⟩, ⟨2, 4, [7], [9]⟩, ⟨4, 3, [7], [6]⟩] ∧
      (db.tables.mapEntries.map fun entry => (entry.mapId, entry.keyHash, entry.height)).Nodup ∧
      ∃ found, read db.tables = .ok (some found) ∧ found.value = [6] ∧
        IsLatest (fun call => db.tables.heightOf call.block) 8 calls (some found.insertion) ∧
        read { db.tables with mapEntries := db.tables.mapEntries.reverse } = .ok (some found) := by
  intro payload contract put before after scope undone db log read calls
  have h : db.Chronicle log [] :=
    (((Chronicle.new false).calls before).openScope.calls [put 1 7 1]).rollBack.calls after
  have hrow : (⟨1, 1, "m"⟩ : ContractMap) ∈ db.tables.maps := by decide +kernel
  have hread : read db.tables = .ok (some ⟨4, 1, 3, 6, [7], [6]⟩) := by decide +kernel
  obtain ⟨hnodup, hrows⟩ := h.latest_insertion
  obtain ⟨-, latest, hlatest, horder, -, -, hcall⟩ := hrows _ hrow [7] 8 (by decide) (by decide)
  obtain rfl := Except.ok.inj (hread.symm.trans hlatest)
  exact ⟨h, by decide +kernel, hnodup, _, hread, rfl, hcall, horder _ (List.reverse_perm _)⟩

end Database

end ReplayLedger
