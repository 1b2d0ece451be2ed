import ReplayLedger.Proofs.SortedKeys
import ReplayLedger.Proofs.Verdict

/-!
# The difference between two blocks as a patch

The difference between two blocks tells, for every key on which they differ, the value on either side,
or none where the key is missing.  Read from left to right it is a patch: its records say which keys of
the left block to set and which to remove (`patched`), and what comes out is the right block.  It is the
least such patch: whatever else leads from the one to the other touches each of its keys.

A block holds a key at most once, so its rows are a finite map and none of them is lost when they are
read by key.  Two such maps are the same if every key has the same value in them
(`Association.inOrder_eq_of_get?`), and what a patch does is told key by key (`get?_patched_of_mem`,
`get?_patched_of_notMem`).

Main statement: `Store.Reachable.diffEntries_least_patch`.
-/

namespace ReplayLedger

/-! ## Tables in the order of their keys -/

/-- What is sorted by different keys comes in strictly ascending order. -/
lemma ascending_mergeSort {κ α : Type} {R : κ → κ → Prop} [IsStrictTotalOrder κ R]
    {lt : κ → κ → Bool} (hlt : ∀ a b, lt a b = true ↔ R a b) {table : List (κ × α)}
    (hnodup : (table.map (·.1)).Nodup) :
    (table.mergeSort fun a b => !lt b.1 a.1).Pairwise fun a b => R a.1 b.1 := by
  have hle : ∀ {a b}, (!lt b a) = true ↔ ¬ R b a := by
    intro a b
    rw [Bool.not_eq_true', ← Bool.not_eq_true, hlt]
  -- sorting by "not greater" gives an order that is not strict
  have hsorted : (table.mergeSort fun a b => !lt b.1 a.1).Pairwise
      fun a b => (!lt b.1 a.1) = true := by
    apply List.pairwise_mergeSort
    · intro a b c hab hbc
      rw [hle] at hab hbc ⊢
      intro hca
      rcases trichotomous_of R c.1 b.1 with hcb | heq | hgt
      · exact hbc hcb
      · exact hab (heq ▸ hca)
      · exact hab (trans_of R hgt hca)
    · intro a b
      rw [Bool.or_eq_true, hle, hle]
      exact not_and_or.1 fun hboth => asymm_of R hboth.1 hboth.2
  -- the keys are distinct, and the order is total: so it is strict
  have hne : (table.mergeSort fun a b => !lt b.1 a.1).Pairwise fun a b => a.1 ≠ b.1 :=
    List.pairwise_map.1 (((List.mergeSort_perm table _).map _).nodup_iff.2 hnodup)
  refine (hsorted.and hne).imp fun {a b} hab => ?_
  rcases trichotomous_of R a.1 b.1 with hless | heq | hgt
  · exact hless
  · exact absurd heq hab.2
  · exact absurd hgt (hle.1 hab.1)

namespace Association

variable {table table' : List (Bytes × Bytes)} {key : Bytes}

/-- The pairs of a table in ascending order of their keys. -/
def inOrder (table : List (Bytes × Bytes)) : List (Bytes × Bytes) :=
  table.mergeSort fun a b => !Bytes.lt b.1 a.1

/-- A table in order has the same pairs. -/
lemma inOrder_perm (table : List (Bytes × Bytes)) : (inOrder table).Perm table :=
  List.mergeSort_perm _ _

/-- Keys that are distinct stay distinct in order. -/
lemma nodup_keys_inOrder (h : (table.map (·.1)).Nodup) : ((inOrder table).map (·.1)).Nodup :=
  ((inOrder_perm table).map _).nodup_iff.2 h

/-- What is read under a key does not depend on the order. -/
lemma get?_inOrder (h : (table.map (·.1)).Nodup) : get? key (inOrder table) = get? key table :=
  get?_perm (nodup_keys_inOrder h) (inOrder_perm table)

/-- Tables in which every key has the same value are listed alike. -/
lemma inOrder_eq_of_get? (h : (table.map (·.1)).Nodup) (h' : (table'.map (·.1)).Nodup)
    (hsame : ∀ key, get? key table = get? key table') : inOrder table = inOrder table' := by
  have hperm : table.Perm table' := by
    refine (List.perm_ext_iff_of_nodup h.of_map h'.of_map).2 fun pair => ?_
    rw [← get?_eq_some_iff h, ← get?_eq_some_iff h', hsame]
  have hlisted : (inOrder table).Perm (inOrder table') :=
    (inOrder_perm table).trans (hperm.trans (inOrder_perm table').symm)
  refine hlisted.eq_of_pairwise ?_ (ascending_mergeSort Bytes.lt_iff h)
    (ascending_mergeSort Bytes.lt_iff h')
  intro a b _ _ hlt hgt
  exact absurd hgt (asymm_of (· < ·) hlt)

/-- Taking out a key leaves the values of the others. -/
lemma get?_filter_ne (table : List (Bytes × Bytes)) (key k : Bytes) :
    get? k (table.filter fun pair => pair.1 ≠ key) = if k = key then none else get? k table := by
  induction table with
  | nil => simp [get?]
  | cons pair rest ih =>
    obtain ⟨k', value⟩ := pair
    by_cases hkey : k' = key
    · rw [List.filter_cons_of_neg (by simpa using hkey), ih]
      by_cases hk : k = key
      · rw [if_pos hk, if_pos hk]
      · rw [if_neg hk, if_neg hk, get?, if_neg fun h => hk (h.symm.trans hkey)]
    · rw [List.filter_cons_of_pos (by simpa using hkey), get?, ih, get?]
      by_cases hk : k' = k
      · rw [if_pos hk, if_pos hk, if_neg fun h => hkey (hk.trans h)]
      · rw [if_neg hk, if_neg hk]

end Association

/-! ## Patches -/

namespace EntryDiff

/-- A difference seen from the other side. -/
def swap (diff : EntryDiff) : EntryDiff := ⟨diff.keyHash, diff.right, diff.left⟩

/-- Carries out a difference: its key is set to the value on the right side, or removed if there is
none. -/
def applyTo (table : List (Bytes × Bytes)) (diff : EntryDiff) : List (Bytes × Bytes) :=
  match diff.right with
  | some value => Association.put diff.keyHash value table
  | none => table.filter fun pair => pair.1 ≠ diff.keyHash

variable {table : List (Bytes × Bytes)} {diff : EntryDiff} {key : Bytes}

/-- A difference changes what is read under its key, and under no other. -/
lemma get?_applyTo : Association.get? key (diff.applyTo table) =
    if key = diff.keyHash then diff.right else Association.get? key table := by
  unfold applyTo
  cases hright : diff.right with
  | some value => exact Association.get?_put _ _ _ _
  | none => exact Association.get?_filter_ne _ _ _

/-- Keys that are distinct stay distinct under a difference. -/
lemma nodup_keys_applyTo (h : (table.map (·.1)).Nodup) :
    ((diff.applyTo table).map (·.1)).Nodup := by
  unfold applyTo
  cases diff.right with
  | some value => exact Association.nodup_keys_put h
  | none => exact h.sublist (List.filter_sublist.map _)

end EntryDiff

/-- A table after differences have been carried out on it one by one. -/
def patched (table : List (Bytes × Bytes)) (patch : List EntryDiff) : List (Bytes × Bytes) :=
  patch.foldl (fun table diff => diff.applyTo table) table

section Patches

variable {patch : List EntryDiff} {table left right : List (Bytes × Bytes)} {key : Bytes}

/-- Keys that are distinct stay distinct under a patch. -/
lemma nodup_keys_patched (h : (table.map (·.1)).Nodup) :
    ((patched table patch).map (·.1)).Nodup := by
  induction patch generalizing table with
  | nil => exact h
  | cons diff rest ih => exact ih (EntryDiff.nodup_keys_applyTo h)

/-- A key that a patch does not touch keeps its value. -/
lemma get?_patched_of_notMem (h : key ∉ patch.map (·.keyHash)) :
    Association.get? key (patched table patch) = Association.get? key table := by
  induction patch generalizing table with
  | nil => rfl
  | cons diff rest ih =>
    obtain ⟨hkey, hrest⟩ : key ≠ diff.keyHash ∧ key ∉ rest.map (·.keyHash) := by simpa using h
    have hlater : Association.get? key (patched (diff.applyTo table) rest) =
        Association.get? key (diff.applyTo table) := ih hrest
    rw [EntryDiff.get?_applyTo, if_neg hkey] at hlater
    exact hlater

/-- A key that a patch touches once has the value that it is set to. -/
lemma get?_patched_of_mem (hnodup : (patch.map (·.keyHash)).Nodup) {diff : EntryDiff}
    (h : diff ∈ patch) : Association.get? diff.keyHash (patched table patch) = diff.right := by
  induction patch generalizing table with
  | nil => cases h
  | cons first rest ih =>
    obtain ⟨hfirst, hrest⟩ := List.nodup_cons.1 hnodup
    rcases List.mem_cons.1 h with rfl | hmem
    · have hlater : Association.get? diff.keyHash (patched (diff.applyTo table) rest) =
          Association.get? diff.keyHash (diff.applyTo table) := get?_patched_of_notMem hfirst
      rw [EntryDiff.get?_applyTo, if_pos rfl] at hlater
      exact hlater
    · exact ih hrest hmem

/-! ## The difference between two tables -/

/-- A difference has the two values under its key, and they are not the same. -/
lemma values_of_mem_diffTables {diff : EntryDiff} (h : diff ∈ diffTables left right) :
    diff.left = Association.get? diff.keyHash left ∧
      diff.right = Association.get? diff.keyHash right ∧ diff.left ≠ diff.right := by
  simp only [diffTables, List.mem_filter, List.mem_map, decide_eq_true_eq] at h
  obtain ⟨⟨key, -, rfl⟩, hne⟩ := h
  exact ⟨rfl, rfl, hne⟩

/-- Keys are listed once. -/
lemma nodup_keys_diffTables (left right : List (Bytes × Bytes)) :
    ((diffTables left right).map (·.keyHash)).Nodup := by
  have hascending : ((diffTables left right).map (·.keyHash)).Pairwise (· < ·) := by
    rw [List.pairwise_map]
    unfold diffTables
    apply List.Pairwise.filter
    rw [List.pairwise_map]
    exact ascending_sortDistinct Bytes.lt_iff _
  exact hascending.imp fun hlt => ne_of_irrefl hlt

/-- From the other side the same keys differ, with their values exchanged. -/
lemma diffTables_swap (left right : List (Bytes × Bytes)) :
    diffTables right left = (diffTables left right).map EntryDiff.swap := by
  have hkeys : sortDistinct Bytes.lt (right.map (·.1) ++ left.map (·.1)) =
      sortDistinct Bytes.lt (left.map (·.1) ++ right.map (·.1)) := by
    refine sortDistinct_congr Bytes.lt_iff fun key => ?_
    rw [List.mem_append, List.mem_append, or_comm]
  simp only [diffTables, hkeys, List.filter_map, List.map_map]
  congr 1
  refine List.filter_congr fun key _ => ?_
  simp only [Function.comp_apply, ne_comm]

/-- Nothing differs between tables in which every key has the same value. -/
lemma diffTables_eq_nil_iff : diffTables left right = [] ↔
    ∀ key, Association.get? key left = Association.get? key right := by
  rw [← List.map_eq_nil_iff (f := EntryDiff.keyHash), List.eq_nil_iff_forall_not_mem]
  simp only [mem_keys_diffTables, not_not]

/-- In whatever order the records of a difference are carried out, every key gets the value on the
right side. -/
lemma get?_patched_diffTables (hperm : patch.Perm (diffTables left right))
    (htable : ∀ key, Association.get? key table = Association.get? key left) (key : Bytes) :
    Association.get? key (patched table patch) = Association.get? key right := by
  have hkeys := hperm.map (·.keyHash)
  by_cases hkey : key ∈ patch.map (·.keyHash)
  · obtain ⟨diff, hdiff, rfl⟩ := List.mem_map.1 hkey
    have hnodup := hkeys.nodup_iff.2 (nodup_keys_diffTables left right)
    rw [get?_patched_of_mem hnodup hdiff]
    exact (values_of_mem_diffTables (hperm.mem_iff.1 hdiff)).2.1
  · rw [get?_patched_of_notMem hkey, htable]
    by_contra hne
    exact hkey (hkeys.mem_iff.2 (mem_keys_diffTables.2 hne))

end Patches

/-! ## The difference between two blocks -/

namespace Store

variable {s : Store} {a b : Block}

/-- A block has at most one entry under each key. -/
lemma Consistent.nodup_keys_entriesOf (hs : s.Consistent) (block : Int) :
    ((s.entriesOf block).map (·.1)).Nodup := by
  have hrows := unique_filter (fun row : StateEntry => row.blockId = block) hs.keys.entries
  unfold entriesOf
  rw [List.map_map]
  refine (List.nodup_map_iff_inj_on hrows.of_map).2 fun row hrow row' hrow' hsame => ?_
  obtain ⟨-, hhome⟩ := List.mem_filter.1 hrow
  obtain ⟨-, hhome'⟩ := List.mem_filter.1 hrow'
  refine List.inj_on_of_nodup_map hrows hrow hrow' ?_
  simp_all

/-- The entries of a block that exists are listed in the order of their keys. -/
lemma Consistent.listEntries_of_mem (hs : s.Consistent) (ha : a ∈ s.blocks) :
    s.listEntries a.id = .ok (Association.inOrder (s.entriesOf a.id)) :=
  listEntries_eq (hs.place?_of_mem ha)

/-- Two blocks that exist are compared by their tables of entries. -/
lemma Consistent.diffEntries_of_mem (hs : s.Consistent) (ha : a ∈ s.blocks) (hb : b ∈ s.blocks) :
    s.diffEntries a.id b.id = .ok (diffTables (s.entriesOf a.id) (s.entriesOf b.id)) := by
  obtain ⟨row, hrow⟩ := getBlockById_of_place? (hs.place?_of_mem ha)
  obtain ⟨row', hrow'⟩ := getBlockById_of_place? (hs.place?_of_mem hb)
  rw [diffEntries, hrow, ok_bind, hrow']
  rfl

/-- The value of a key at a block that exists. -/
lemma Consistent.getEntry_of_mem (hs : s.Consistent) (ha : a ∈ s.blocks) (key : Bytes) :
    s.getEntry a.id (.bytes key) = .ok (Association.get? key (s.entriesOf a.id)) := by
  have hfound := hs.block?_eq_some.2 ⟨ha, rfl⟩
  rw [getEntry, bytes_bytes, ok_bind, storableId_of_find? hfound, get?_entriesOf]
  rfl

/-- The difference between two blocks is the least patch that leads from the entries of the one to
those of the other: carried out in any order it does so, every record has the values of its key on both
sides, which are different, no key comes twice, and every patch that leads there touches all of its
keys.  From the other side it is the same with values exchanged, and it is empty exactly if the blocks
have the same entries. -/
theorem Reachable.diffEntries_least_patch (hs : s.Reachable) (ha : a ∈ s.blocks) (hb : b ∈ s.blocks) :
    ∃ diff left right, s.diffEntries a.id b.id = .ok diff ∧
      s.listEntries a.id = .ok left ∧ s.listEntries b.id = .ok right ∧
      (∀ patch : List EntryDiff, patch.Perm diff →
        Association.inOrder (patched left patch) = right) ∧
      (∀ record ∈ diff, s.getEntry a.id (.bytes record.keyHash) = .ok record.left ∧
        s.getEntry b.id (.bytes record.keyHash) = .ok record.right ∧
        (∀ value, record.left = some value ↔ (record.keyHash, value) ∈ left) ∧
        (record.left = none ↔ record.keyHash ∉ left.map (·.1)) ∧ record.left ≠ record.right) ∧
      (diff.map (·.keyHash)).Nodup ∧
      (∀ patch : List EntryDiff, Association.inOrder (patched left patch) = right →
        ∀ record ∈ diff, record.keyHash ∈ patch.map (·.keyHash)) ∧
      s.diffEntries b.id a.id = .ok (diff.map EntryDiff.swap) ∧
      (diff = [] ↔ left = right) := by
  have hconsistent := hs.consistent
  have hleft := hconsistent.nodup_keys_entriesOf a.id
  have hright := hconsistent.nodup_keys_entriesOf b.id
  have hlisted := Association.nodup_keys_inOrder hleft
  refine ⟨_, _, _, hconsistent.diffEntries_of_mem ha hb, hconsistent.listEntries_of_mem ha,
    hconsistent.listEntries_of_mem hb, ?_, ?_, nodup_keys_diffTables _ _, ?_, ?_, ?_⟩
  -- left to right: both tables are in order and give the same values
  · intro patch hperm
    exact Association.inOrder_eq_of_get? (nodup_keys_patched hlisted) hright
      (get?_patched_diffTables hperm fun key => Association.get?_inOrder hleft)
  · intro record hrecord
    obtain ⟨hold, hnew, hne⟩ := values_of_mem_diffTables hrecord
    refine ⟨?_, ?_, ?_, ?_, hne⟩
    · rw [hconsistent.getEntry_of_mem ha, hold]
    · rw [hconsistent.getEntry_of_mem hb, hnew]
    · intro value
      rw [hold, ← Association.get?_inOrder hleft, Association.get?_eq_some_iff hlisted]
    · rw [hold, ← Association.get?_inOrder hleft, Association.get?_eq_none_iff]
  -- a key that the patch does not touch keeps its left value, which is not its right one
  · intro patch hpatch record hrecord
    by_contra huntouched
    obtain ⟨hold, hnew, hne⟩ := values_of_mem_diffTables hrecord
    refine hne ?_
    calc record.left
      _ = Association.get? record.keyHash (Association.inOrder (s.entriesOf a.id)) := by
        rw [hold, Association.get?_inOrder hleft]
      _ = Association.get? record.keyHash
            (patched (Association.inOrder (s.entriesOf a.id)) patch) :=
        (get?_patched_of_notMem huntouched).symm
      _ = Association.get? record.keyHash (Association.inOrder (s.entriesOf b.id)) := by
        rw [← hpatch, Association.get?_inOrder (nodup_keys_patched hlisted)]
      _ = record.right := by
        rw [hnew, Association.get?_inOrder hright]
  · rw [hconsistent.diffEntries_of_mem hb ha, diffTables_swap]
  · rw [diffTables_eq_nil_iff]
    constructor
    · exact Association.inOrder_eq_of_get? hleft hright
    · intro hsame key
      rw [← Association.get?_inOrder hleft, hsame, Association.get?_inOrder hright]

/-- Two blocks of different environments that agree on one key: one of them has another value for a
key, an empty value where the other has none, and misses a key. -/
theorem diffEntries_least_patch_of_empty_value :
    let payload (environment : String) (entries : List (UInt8 × Bytes)) : Value :=
      .record [("environment", .text environment), ("height", .int 4), ("index_hash", .bytes [1]),
        ("trie_root_hash", .bytes [2]),
        ("entries", .list (entries.map fun (key, value) =>
          .record [("key_hash", .bytes [key]), ("value", .bytes value)]))]
    let steps : List Step := [.call (.createEnvironment (.text "a") (.int 1) (.text "/a")),
      .call (.createEnvironment (.text "b") (.int 2) (.text "/b")),
      .call (.applyBlock (payload "a" [(200, [2]), (9, [1]), (8, [3])])),
      .call (.applyBlock (payload "b" [(9, [1]), (7, []), (200, [4])]))]
    let s : Store := (Step.runAll {} steps).2.tables
    ∃ diff left right, s.diffEntries 1 2 = .ok diff ∧ s.listEntries 1 = .ok left ∧
      s.listEntries 2 = .ok right ∧ Association.inOrder (patched left diff.reverse) = right ∧
      s.diffEntries 2 1 = .ok (diff.map EntryDiff.swap) ∧ (diff.map (·.keyHash)).Nodup ∧
      diff = [⟨[7], none, some []⟩, ⟨[8], some [3], none⟩, ⟨[200], some [2], some [4]⟩] := by
  intro payload steps s
  have hs : s.Reachable := (Step.reachable_runAll (.new false) steps (by decide)).stores.1
  have ha : (⟨1, 1, 4, [1], [2]⟩ : Block) ∈ s.blocks := by decide +kernel
  have hb : (⟨2, 2, 4, [1], [2]⟩ : Block) ∈ s.blocks := by decide +kernel
  obtain ⟨diff, left, right, hdiff, hleft, hright, hpatch, -, hnodup, -, hswap, -⟩ :=
    hs.diffEntries_least_patch ha hb
  have hrecords : s.diffEntries 1 2 =
      .ok [⟨[7], none, some []⟩, ⟨[8], some [3], none⟩, ⟨[200], some [2], some [4]⟩] := by
    decide +kernel
  refine ⟨diff, left, right, hdiff, hleft, hright, hpatch _ (List.reverse_perm diff), hswap, hnodup, ?_⟩
  exact Except.ok.inj (hdiff.symm.trans hrecords)

end Store

end ReplayLedger
