import ReplayLedger.Proofs.Associations
import ReplayLedger.Proofs.PointInTime
import Mathlib.Data.Option.Basic

/-!
# What a block wrote and what is read at its height

The values that were written at a block are told in two ways.  The tables of the block join the rows
at it with the variables and maps they were written to, name these by contract and key, and let a
later row take the place of an earlier one.  A read at the height of the block looks through the rows
of one variable, or of one key of a map, by the copied heights and then by ids.

Both tell the same.  A name stands for one variable of the environment of the block, so no two
variables share a key of the table; and the rows of a variable at the height of the block are the ones
at the block itself, since its environment has no other block there
(`Consistent.height_eq_iff_of_instance`).  The last of them in the table is the latest one
(`IsLatest.eq_getLast?`).

Main statement: `Store.Reachable.writesAt_mirror_reads`.
-/

namespace ReplayLedger

/-- If some item lies at the bound itself, the latest item is the last of those that do. -/
lemma IsLatest.eq_getLast? {α : Type} {height : α → Int} {asOf : Int} {items : List α}
    {best : Option α} (h : IsLatest height asOf items best)
    (hat : ∃ item ∈ items, height item = asOf) :
    best = (items.filter fun item => height item = asOf).getLast? := by
  obtain ⟨item, hmem, hitem⟩ := hat
  cases best with
  | none => exact absurd (h item hmem) (by omega)
  | some best =>
    obtain ⟨-, hle, hgreatest⟩ := h.greatest
    have hbest : height best = asOf :=
      Int.le_antisymm hle (hitem ▸ hgreatest item hmem (Int.le_of_eq hitem))
    -- nothing after the best one is of this height, so it is the last that is
    obtain ⟨-, earlier, later, rfl, -, hlater⟩ := h
    have hnone : later.filter (fun item => height item = asOf) = [] := by
      rw [List.filter_eq_nil_iff]
      intro other hother hsame
      have hsame : height other = asOf := by simpa using hsame
      have hlt := hlater other hother (Int.le_of_eq hsame)
      omega
    rw [List.filter_append, List.filter_cons_of_pos (by simpa using hbest), hnone,
      List.getLast?_append]
    rfl

/-- Where all keys are different, an item is the only one under its key. -/
lemma getLast?_filter_of_nodup {α κ : Type} [DecidableEq κ] {items : List α} {key : α → κ}
    (h : (items.map key).Nodup) {item : α} (hmem : item ∈ items) :
    (items.filter fun other => key other = key item).getLast? = some item := by
  cases hlast : (items.filter fun other => key other = key item).getLast? with
  | none =>
    rw [List.getLast?_eq_none_iff, List.filter_eq_nil_iff] at hlast
    exact absurd (decide_eq_true rfl) (hlast item hmem)
  | some other =>
    obtain ⟨hother, hsame⟩ := List.mem_filter.1 (List.mem_of_getLast? hlast)
    rw [List.inj_on_of_nodup_map h hother hmem (of_decide_eq_true hsame)]

namespace Association

variable {α β ρ κ : Type} [DecidableEq κ] {items : List α} {key : α → Option κ}
  {read : α → Except Error (Option β)} {value : β → Bytes}

/-- A table mirrors items: it has one key for every item and no other keys, and the value of a key is
the one that is read of its item. -/
structure Mirrors (items : List α) (key : α → Option κ) (read : α → Except Error (Option β))
    (value : β → Bytes) (table : List (κ × Bytes)) : Prop where
  keys : (table.map fun pair => some pair.1).Perm (items.map key)
  distinct : (table.map (·.1)).Nodup
  values : ∀ item ∈ items, ∃ k found, key item = some k ∧ read item = .ok (some found) ∧
    get? k table = some (value found)

/-- The order of the pairs does not matter. -/
lemma Mirrors.perm {table table' : List (κ × Bytes)} (h : Mirrors items key read value table)
    (hperm : table'.Perm table) : Mirrors items key read value table' := by
  have hdistinct : (table'.map (·.1)).Nodup := (hperm.map _).nodup_iff.2 h.distinct
  refine ⟨(hperm.map _).trans h.keys, hdistinct, fun item hitem => ?_⟩
  obtain ⟨k, found, hkey, hread, hget⟩ := h.values item hitem
  exact ⟨k, found, hkey, hread, (get?_perm hdistinct hperm).trans hget⟩

section Rows

variable {rows : List ρ} {rowKey : ρ → Option κ} {rowValue : ρ → Bytes}

/-- Of the rows with one key the value of the last one stays. -/
lemma get?_ofWrites_rows (rows : List ρ) (k : κ) :
    get? k (ofWrites (rows.filterMap fun row => (rowKey row).map (·, rowValue row))) =
      ((rows.filter fun row => rowKey row = some k).getLast?).map rowValue := by
  have hwrites : (rows.filterMap fun row => (rowKey row).map (·, rowValue row)).filter
      (fun write => write.1 = k) =
      (rows.filter fun row => rowKey row = some k).map fun row => (k, rowValue row) := by
    induction rows with
    | nil => rfl
    | cons row rest ih =>
      cases hkey : rowKey row with
      | none => simpa [hkey] using ih
      | some k' =>
        by_cases hsame : k' = k
        · simpa [hkey, hsame] using ih
        · simpa [hkey, hsame] using ih
  rw [get?_ofWrites, hwrites, List.getLast?_map, Option.map_map]
  rfl

/-- A row leaves its key in the table. -/
lemma mem_keys_ofWrites_rows {k : κ} :
    k ∈ (ofWrites (rows.filterMap fun row => (rowKey row).map (·, rowValue row))).map (·.1) ↔
      ∃ row ∈ rows, rowKey row = some k := by
  rw [← not_iff_not, ← get?_eq_none_iff, get?_ofWrites_rows, Option.map_eq_none_iff,
    List.getLast?_eq_none_iff, List.filter_eq_nil_iff]
  simp

/-- The table that rows leave mirrors items, if the items have the keys of the rows, each one its own,
and what is read of an item is the value of the last row with its key. -/
lemma mirrors_ofWrites
    (hkeys : ∀ k, (∃ row ∈ rows, rowKey row = some k) ↔ ∃ item ∈ items, key item = some k)
    (hdistinct : (items.map key).Nodup)
    (hread : ∀ item ∈ items, ∃ k found, key item = some k ∧ read item = .ok (some found) ∧
      ((rows.filter fun row => rowKey row = some k).getLast?).map rowValue = some (value found)) :
    Mirrors items key read value
      (ofWrites (rows.filterMap fun row => (rowKey row).map (·, rowValue row))) := by
  have hnodup := nodup_keys_ofWrites
    (rows.filterMap fun row => (rowKey row).map (·, rowValue row))
  refine ⟨?_, hnodup, fun item hitem => ?_⟩
  · have hsome := hnodup.map (Option.some_injective κ)
    rw [List.map_map] at hsome
    refine (List.perm_ext_iff_of_nodup hsome hdistinct).2 fun k => ?_
    cases k with
    | none =>
      refine iff_of_false (by simp) fun hmem => ?_
      obtain ⟨item, hitem, hnone⟩ := List.mem_map.1 hmem
      obtain ⟨k, -, hkey, -⟩ := hread item hitem
      cases hnone.symm.trans hkey
    | some k =>
      rw [← List.map_map, List.mem_map_of_injective (Option.some_injective κ), mem_keys_ofWrites_rows,
        hkeys, List.mem_map]
  · obtain ⟨k, found, hkey, hfound, hlast⟩ := hread item hitem
    exact ⟨k, found, hkey, hfound, (get?_ofWrites_rows rows k).trans hlast⟩

end Rows

end Association

namespace Store

variable {s : Store} {block : Block}

/-! ## Variables -/

/-- The variables of which a value was written at a block. -/
def variablesAt (s : Store) (block : Int) : List Variable :=
  s.vars.filter fun row => s.instances.any fun written =>
    written.variableId = row.id ∧ written.blockId = block

/-- The contract and the key of a variable, as the chain names them. -/
def slotOfVariable? (s : Store) (row : Variable) : Option VariableSlot :=
  (s.contract? row.contractId).map fun owner => ⟨owner.qualifiedId, row.key⟩

/-- The variables at a block are those with a value that was written there. -/
lemma mem_variablesAt {row : Variable} : row ∈ s.variablesAt block.id ↔
    row ∈ s.vars ∧ ∃ written ∈ s.instances, written.variableId = row.id ∧
      written.blockId = block.id := by
  simp [variablesAt]

namespace Consistent

/-- A value at a block belongs to a variable of the environment of the block, and the variable has its
slot. -/
lemma variable_of_instance (hs : s.Consistent) (hblock : block ∈ s.blocks)
    {written : VariableInstance} (hwritten : written ∈ s.instances)
    (hhere : written.blockId = block.id) :
    ∃ row ∈ s.vars, ∃ slot, row.id = written.variableId ∧ s.slotOfVariable? row = some slot ∧
      s.slotOfInstance? written = some slot ∧
      s.variableName? row.id = some (block.environmentId, slot) := by
  obtain ⟨row, hrow, owner, howner, home, hhome, -, -, hid, hownerId, hhomeId, -, -, -, howned, -⟩ :=
    hs.links.instances written hwritten
  obtain rfl : home = block :=
    List.inj_on_of_nodup_map (nodup_of_rise hs.ids.blocks) hhome hblock (hhomeId.trans hhere)
  have hfound : s.contract? row.contractId = some owner := hs.contract?_eq_some.2 ⟨howner, hownerId⟩
  have hdeclared : s.variableWithId? written.variableId = some row :=
    hs.variableWithId?_eq_some.2 ⟨hrow, hid⟩
  refine ⟨row, hrow, ⟨owner.qualifiedId, row.key⟩, hid, ?_, ?_, ?_⟩
  · rw [slotOfVariable?, hfound]
    rfl
  · rw [slotOfInstance?, variableOwner?_eq_some.2 ⟨hdeclared, hfound⟩]
    rfl
  · rw [howned]
    exact hs.variableName?_of_mem hrow howner hownerId

/-- The values of a variable at the height of a block of its environment are those at the block. -/
lemma height_eq_iff_of_instance (hs : s.Consistent) (hblock : block ∈ s.blocks)
    {written : VariableInstance} (hwritten : written ∈ s.instances) {slot : VariableSlot}
    (hname : s.variableName? written.variableId = some (block.environmentId, slot)) :
    written.height = block.height ↔ written.blockId = block.id := by
  obtain ⟨row, hrow, owner, howner, home, hhome, -, -, hid, hownerId, hhomeId, -, -, -, howned,
    hheight⟩ := hs.links.instances written hwritten
  rw [← hid, hs.variableName?_of_mem hrow howner hownerId] at hname
  have henvironment : home.environmentId = block.environmentId :=
    howned.trans (Prod.mk.inj (Option.some.inj hname)).1
  rw [hheight, ← hhomeId]
  constructor
  · intro hsame
    have heq : home = block :=
      List.inj_on_of_nodup_map hs.keys.blockHeights hhome hblock (by simp [henvironment, hsame])
    rw [heq]
  · intro hsame
    have heq : home = block :=
      List.inj_on_of_nodup_map (nodup_of_rise hs.ids.blocks) hhome hblock hsame
    rw [heq]

/-- Of the values at a block, those under the slot of a variable are the values of this variable. -/
lemma slotOfInstance?_eq_iff (hs : s.Consistent) (hblock : block ∈ s.blocks)
    {written : VariableInstance} (hwritten : written ∈ s.instances)
    (hhere : written.blockId = block.id) {id : Int} {slot : VariableSlot}
    (hname : s.variableName? id = some (block.environmentId, slot)) :
    s.slotOfInstance? written = some slot ↔ written.variableId = id := by
  obtain ⟨row, -, slot', hid, -, hslot', hname'⟩ := hs.variable_of_instance hblock hwritten hhere
  rw [hid] at hname'
  rw [hslot', ← hs.variableName?_inj hname, hname']
  simp

/-- The values at a block under the slot of a variable are its values at the height of the block. -/
lemma filter_slot_eq (hs : s.Consistent) (hblock : block ∈ s.blocks) {id : Int}
    {slot : VariableSlot} (hname : s.variableName? id = some (block.environmentId, slot)) :
    (s.instances.filter fun written => written.blockId = block.id).filter
      (fun written => s.slotOfInstance? written = some slot) =
      (Series.vars.rowsOf s id).filter fun written => written.height = block.height := by
  rw [Series.rowsOf, List.filter_filter, List.filter_filter]
  refine List.filter_congr fun written hwritten => ?_
  rw [← Bool.decide_and, ← Bool.decide_and, decide_eq_decide]
  constructor
  · rintro ⟨hslot, hhere⟩
    have hid := (hs.slotOfInstance?_eq_iff hblock hwritten hhere hname).1 hslot
    exact ⟨(hs.height_eq_iff_of_instance hblock hwritten (hid ▸ hname)).2 hhere, hid⟩
  · rintro ⟨hheight, hid⟩
    have hid : written.variableId = id := hid
    have hhere := (hs.height_eq_iff_of_instance hblock hwritten (hid ▸ hname)).1 hheight
    exact ⟨(hs.slotOfInstance?_eq_iff hblock hwritten hhere hname).2 hid, hhere⟩

/-- What is read of a variable at the height of a block that wrote it is the last value there. -/
lemma latestVariableValue_at (hs : s.Consistent) (hblock : block ∈ s.blocks) {row : Variable}
    (hrow : row ∈ s.variablesAt block.id) :
    ∃ slot found, s.slotOfVariable? row = some slot ∧
      s.variableName? row.id = some (block.environmentId, slot) ∧
      s.latestVariableValue row.id (.int block.height) = .ok (some found) ∧
      ((s.instances.filter fun written => written.blockId = block.id).filter
        fun written => s.slotOfInstance? written = some slot).getLast? = some found := by
  obtain ⟨hvar, written, hwritten, hid, hhere⟩ := mem_variablesAt.1 hrow
  obtain ⟨row', hvar', slot, hid', hslot, -, hname⟩ := hs.variable_of_instance hblock hwritten hhere
  obtain rfl : row' = row :=
    List.inj_on_of_nodup_map (nodup_of_rise hs.ids.vars) hvar' hvar (hid'.trans hid)
  obtain ⟨hpos, hstorable⟩ := hs.heights block hblock
  obtain ⟨latest, hread, hlatest⟩ := hs.latestVariableValue_isLatest hvar hpos hstorable
  -- something is written at this height, so the latest value as of it is of this height
  have hat : ∃ other ∈ Series.vars.rowsOf s row'.id, other.height = block.height :=
    ⟨written, List.mem_filter.2 ⟨hwritten, decide_eq_true hid⟩,
      (hs.height_eq_iff_of_instance hblock hwritten (hid ▸ hname)).2 hhere⟩
  obtain ⟨found, rfl⟩ : ∃ found, latest = some found := by
    refine Option.ne_none_iff_exists'.1 fun hnone => ?_
    obtain ⟨other, hother, hheight⟩ := hat
    have habove := hlatest.eq_none_iff.1 hnone other hother
    omega
  refine ⟨slot, found, hslot, hname, hread, ?_⟩
  rw [hs.filter_slot_eq hblock hname]
  exact (hlatest.eq_getLast? hat).symm

/-- The table of variables at a block mirrors the variables that were written there. -/
lemma mirrors_variableTable (hs : s.Consistent) (hblock : block ∈ s.blocks) :
    Association.Mirrors (s.variablesAt block.id) s.slotOfVariable?
      (fun row => s.latestVariableValue row.id (.int block.height)) (·.value)
      (s.variableTable block.id) := by
  apply Association.mirrors_ofWrites
  -- the slots written here are those of the declarations that have a write here
  · intro slot
    constructor
    · rintro ⟨written, hwritten, hslot⟩
      obtain ⟨hwritten, hhere⟩ := List.mem_filter.1 hwritten
      have hhere : written.blockId = block.id := by simpa using hhere
      obtain ⟨row, hrow, slot', hid, hslot', hsame, -⟩ :=
        hs.variable_of_instance hblock hwritten hhere
      refine ⟨row, mem_variablesAt.2 ⟨hrow, written, hwritten, hid.symm, hhere⟩, ?_⟩
      rw [hslot', ← hsame, hslot]
    · rintro ⟨row, hrow, hslot⟩
      obtain ⟨hvar, written, hwritten, hid, hhere⟩ := mem_variablesAt.1 hrow
      obtain ⟨row', hvar', slot', hid', hslot', hsame, -⟩ :=
        hs.variable_of_instance hblock hwritten hhere
      obtain rfl : row' = row :=
        List.inj_on_of_nodup_map (nodup_of_rise hs.ids.vars) hvar' hvar (hid'.trans hid)
      refine ⟨written, List.mem_filter.2 ⟨hwritten, decide_eq_true hhere⟩, ?_⟩
      rw [hsame, ← hslot', hslot]
  -- two declarations of one slot are one
  · refine List.Nodup.map_on (fun a ha b hb hsame => ?_)
      ((nodup_of_rise hs.ids.vars).of_map.filter _)
    obtain ⟨slot, -, hslot, hname, -⟩ := hs.latestVariableValue_at hblock ha
    obtain ⟨slot', -, hslot', hname', -⟩ := hs.latestVariableValue_at hblock hb
    obtain rfl : slot = slot' := Option.some.inj (hslot.symm.trans (hsame.trans hslot'))
    exact List.inj_on_of_nodup_map (nodup_of_rise hs.ids.vars) (mem_variablesAt.1 ha).1
      (mem_variablesAt.1 hb).1 ((hs.variableName?_inj hname').1 hname)
  · intro row hrow
    obtain ⟨slot, found, hslot, -, hread, hlast⟩ := hs.latestVariableValue_at hblock hrow
    exact ⟨slot, found, hslot, hread, by rw [hlast]; rfl⟩

/-! ## Maps -/

/-- An entry at a block belongs to a map of the environment of the block. -/
lemma map_of_mapEntry (hs : s.Consistent) (hblock : block ∈ s.blocks) {entry : MapEntry}
    (hentry : entry ∈ s.mapEntries) (hhere : entry.blockId = block.id) :
    ∃ row ∈ s.maps, ∃ slot, row.id = entry.mapId ∧ s.slotOfMapEntry? entry = some slot ∧
      s.mapName? entry.mapId = some (block.environmentId, ⟨slot.qualifiedId, slot.name⟩) ∧
      entry.keyHash = slot.keyHash ∧ entry.height = block.height := by
  obtain ⟨row, hrow, owner, howner, home, hhome, hid, hownerId, hhomeId, howned, hheight⟩ :=
    hs.links.mapEntries entry hentry
  obtain rfl : home = block :=
    List.inj_on_of_nodup_map (nodup_of_rise hs.ids.blocks) hhome hblock (hhomeId.trans hhere)
  have hfound : s.contract? row.contractId = some owner := hs.contract?_eq_some.2 ⟨howner, hownerId⟩
  have hdeclared : s.map? entry.mapId = some row := hs.map?_eq_some.2 ⟨hrow, hid⟩
  refine ⟨row, hrow, ⟨owner.qualifiedId, row.name, entry.keyHash⟩, hid, ?_, ?_, rfl, hheight⟩
  · unfold slotOfMapEntry?
    rw [mapOwner?_eq_some.2 ⟨hdeclared, hfound⟩]
    rfl
  · rw [howned, ← hid]
    exact hs.mapName?_of_mem hrow howner hownerId

/-- No two entries at a block have one slot. -/
lemma nodup_slotOfMapEntry? (hs : s.Consistent) (hblock : block ∈ s.blocks) :
    ((s.mapEntries.filter fun entry => entry.blockId = block.id).map s.slotOfMapEntry?).Nodup := by
  refine List.Nodup.map_on (fun a ha b hb hsame => ?_)
    ((nodup_of_rise hs.ids.mapEntries).of_map.filter _)
  obtain ⟨ha, hathere⟩ := List.mem_filter.1 ha
  obtain ⟨hb, hbthere⟩ := List.mem_filter.1 hb
  have hathere : a.blockId = block.id := by simpa using hathere
  have hbthere : b.blockId = block.id := by simpa using hbthere
  obtain ⟨-, -, slot, -, hslot, hname, hkey, -⟩ := hs.map_of_mapEntry hblock ha hathere
  obtain ⟨-, -, slot', -, hslot', hname', hkey', -⟩ := hs.map_of_mapEntry hblock hb hbthere
  obtain rfl : slot = slot' := Option.some.inj (hslot.symm.trans (hsame.trans hslot'))
  have hmap : a.mapId = b.mapId := (hs.mapName?_inj hname').1 hname
  exact List.inj_on_of_nodup_map hs.keys.mapEntries ha hb
    (by simp [hmap, hathere, hbthere, hkey, hkey'])

/-- What is read of a key at the height of a block that wrote it is the entry there. -/
lemma latestMapEntry_at (hs : s.Consistent) (hblock : block ∈ s.blocks) {entry : MapEntry}
    (hentry : entry ∈ s.mapEntries) (hhere : entry.blockId = block.id) :
    s.latestMapEntry entry.mapId (.bytes entry.keyHash) (.int block.height) = .ok (some entry) := by
  obtain ⟨row, hrow, -, hid, -, -, -, hheight⟩ := hs.map_of_mapEntry hblock hentry hhere
  obtain ⟨hpos, hstorable⟩ := hs.heights block hblock
  obtain ⟨latest, hread, hlatest⟩ :=
    hs.latestMapEntry_isLatest hrow entry.keyHash (.refl _) hpos hstorable
  -- a key of a map has one entry at a height
  have hinj : ∀ a ∈ s.mapEntries.filter
        (fun found => found.mapId = row.id ∧ found.keyHash = entry.keyHash),
      ∀ b ∈ s.mapEntries.filter
        (fun found => found.mapId = row.id ∧ found.keyHash = entry.keyHash),
      a.height = b.height → a = b := by
    intro a ha b hb hsame
    obtain ⟨ha, hkey⟩ := List.mem_filter.1 ha
    obtain ⟨hb, hkey'⟩ := List.mem_filter.1 hb
    simp only [decide_eq_true_eq] at hkey hkey'
    exact List.inj_on_of_nodup_map hs.nodup_mapHeights ha hb (by simp [hkey, hkey', hsame])
  have hlatestEntry : latest = some entry := by
    refine (hlatest.eq_some_iff hinj).2
      ⟨List.mem_filter.2 ⟨hentry, by simp [hid]⟩, Int.le_of_eq hheight, fun other _ hle => ?_⟩
    rwa [hheight]
  rw [← hid, ← hlatestEntry]
  exact hread

/-- The table of maps at a block mirrors the entries that were written there. -/
lemma mirrors_mapTable (hs : s.Consistent) (hblock : block ∈ s.blocks) :
    Association.Mirrors (s.mapEntries.filter fun entry => entry.blockId = block.id)
      s.slotOfMapEntry?
      (fun entry => s.latestMapEntry entry.mapId (.bytes entry.keyHash) (.int block.height)) (·.value)
      (s.mapTable block.id) := by
  have hnodup := hs.nodup_slotOfMapEntry? hblock
  refine Association.mirrors_ofWrites (fun slot => Iff.rfl) hnodup ?_
  intro entry hmem
  obtain ⟨hentry, hhere⟩ := List.mem_filter.1 hmem
  have hhere : entry.blockId = block.id := by simpa using hhere
  obtain ⟨-, -, slot, -, hslot, -⟩ := hs.map_of_mapEntry hblock hentry hhere
  have hlast := getLast?_filter_of_nodup hnodup hmem
  rw [hslot] at hlast
  exact ⟨slot, entry, hslot, hs.latestMapEntry_at hblock hentry hhere, by rw [hlast]; rfl⟩

end Consistent

/-- The writes that are shown of a block have one key for every variable of which a value was written
there and one for every map entry, so no two of them share a key; and the value of a key is the one
that is read of its variable, or of its map and key, at the height of the block. -/
theorem Reachable.writesAt_mirror_reads (hs : s.Reachable) (hblock : block ∈ s.blocks) :
    ∃ varWrites mapWrites, s.variableWritesAt block.id = .ok varWrites ∧
      s.mapWritesAt block.id = .ok mapWrites ∧
      Association.Mirrors (s.variablesAt block.id) s.slotOfVariable?
        (fun row => s.latestVariableValue row.id (.int block.height)) (·.value) varWrites ∧
      Association.Mirrors (s.mapEntries.filter fun entry => entry.blockId = block.id)
        s.slotOfMapEntry?
        (fun entry => s.latestMapEntry entry.mapId (.bytes entry.keyHash) (.int block.height))
        (·.value) mapWrites := by
  have hconsistent := hs.consistent
  have hplace := hconsistent.place?_of_mem hblock
  refine ⟨_, _, variableWritesAt_eq hplace, mapWritesAt_eq hplace, ?_, ?_⟩
  · exact (hconsistent.mirrors_variableTable hblock).perm (List.mergeSort_perm _ _)
  · exact (hconsistent.mirrors_mapTable hblock).perm (List.mergeSort_perm _ _)

/-- Two environments write under the same names at the same height.  In one of them, which has the ids
of one that was dropped, a variable is written twice at the block and once more after a higher block
was recorded. -/
theorem writesAt_mirror_reads_of_later_value :
    let payload (environment : String) (height : Int) (values : List UInt8)
        (deployed : List Value) : Value :=
      .record [("environment", .text environment), ("height", .int height),
        ("index_hash", .bytes [height.toNat.toUInt8]), ("trie_root_hash", .bytes [0]),
        ("entries", .list []), ("contracts", .list deployed),
        ("executions", .list [.record [("contract", .text "c"), ("tx_id", .bytes [5])]]),
        ("variables", .list (values.map fun value => .record [("contract", .text "c"),
          ("key", .text "k"), ("tx_id", .bytes [5]), ("value", .bytes [value])])),
        ("maps", .list (values.map fun value => .record [("contract", .text "c"),
          ("name", .text "m"), ("key_hash", .bytes [value]), ("value", .bytes [])]))]
    let contract : Value := .record [("qualified_id", .text "c"), ("source", .bytes [])]
    let calls : List Call :=
      [.createEnvironment (.text "gone") (.int 1) (.text "/gone"),
        .applyBlock (payload "gone" 4 [1] [contract]), .dropEnvironment 1,
        .createEnvironment (.text "a") (.int 1) (.text "/a"),
        .createEnvironment (.text "b") (.int 2) (.text "/b"),
        .applyBlock (payload "a" 4 [2, 3] [contract]),
        .applyBlock (payload "b" 4 [4] [contract]), .applyBlock (payload "a" 9 [5] []),
        .declareVariable 1 (.text "other"), .recordVariableInstance 3 1 1 (.bytes [6]),
        .recordVariableInstance 1 1 1 (.bytes [7])]
    let s : Store := (Step.runAll {} (calls.map .call)).2.tables
    let block : Block := ⟨1, 1, 4, [4], [0]⟩
    block ∈ s.blocks ∧ s.variablesAt 1 = [⟨1, 1, "k"⟩, ⟨3, 1, "other"⟩] ∧
      ∃ varWrites mapWrites, s.variableWritesAt 1 = .ok varWrites ∧ s.mapWritesAt 1 = .ok mapWrites ∧
        varWrites.length = 2 ∧ (varWrites.map (·.1)).Nodup ∧ mapWrites.length = 2 ∧
        ∃ found, s.latestVariableValue 1 (.int 4) = .ok (some found) ∧ found.value = [7] ∧
          Association.get? ⟨"c", "k"⟩ varWrites = some [7] := by
  intro payload contract calls s block
  have hs : s.Reachable :=
    (Step.reachable_runAll (.new false) (calls.map .call) (by decide)).stores.1
  have hblock : block ∈ s.blocks := by decide +kernel
  have hwritten : s.variablesAt 1 = [⟨1, 1, "k"⟩, ⟨3, 1, "other"⟩] := by decide +kernel
  have hentries : (s.mapEntries.filter fun entry => entry.blockId = 1).length = 2 := by
    decide +kernel
  have hread : s.latestVariableValue 1 (.int 4) = .ok (some ⟨6, 1, 1, 4, 1, [7]⟩) := by
    decide +kernel
  have hslot : s.slotOfVariable? ⟨1, 1, "k"⟩ = some ⟨"c", "k"⟩ := by decide +kernel
  obtain ⟨varWrites, mapWrites, hvars, hmaps, hvarMirror, hmapMirror⟩ :=
    hs.writesAt_mirror_reads hblock
  obtain ⟨slot, found, hslot', hread', hvalue⟩ :=
    hvarMirror.values ⟨1, 1, "k"⟩ (by rw [show block.id = 1 from rfl, hwritten]; simp)
  obtain rfl := Option.some.inj (hslot.symm.trans hslot')
  obtain rfl : _ = found := Option.some.inj (Except.ok.inj (hread.symm.trans hread'))
  refine ⟨hblock, hwritten, varWrites, mapWrites, hvars, hmaps, ?_, hvarMirror.distinct, ?_, _,
    hread, rfl, hvalue⟩
  · have hlength := hvarMirror.keys.length_eq
    rw [show block.id = 1 from rfl, hwritten] at hlength
    simpa using hlength
  · have hlength := hmapMirror.keys.length_eq
    rw [List.length_map, List.length_map] at hlength
    exact hlength.trans hentries

end Store

end ReplayLedger
