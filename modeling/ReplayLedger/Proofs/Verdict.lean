import ReplayLedger.Proofs.Answers
import ReplayLedger.Proofs.Divergence

/-!
# What a comparison reports

A comparison of environments that all have a block at the height comes to a report.  Its verdict is
read off the trie roots, and where they differ it lists, key by key and environment by environment,
the values of exactly those keys on which the blocks are not all equal
(`Store.Reachable.compareHeights_exact`).
-/

namespace ReplayLedger

section Lists

variable {α : Type} [DecidableEq α]

/-- One more item is kept if it was not there. -/
lemma eraseDups_concat (items : List α) (last : α) :
    (items ++ [last]).eraseDups =
      if last ∈ items then items.eraseDups else items.eraseDups ++ [last] := by
  rw [List.eraseDups_append, List.cons_removeAll]
  by_cases hmem : last ∈ items
  · simp [hmem]
  · simp [hmem, List.eraseDups_cons]

/-- Without its repetitions a list has none. -/
lemma nodup_eraseDups (items : List α) : items.eraseDups.Nodup := by
  induction items using List.reverseRecOn with
  | nil => exact List.nodup_nil
  | append_singleton items last ih =>
    rw [eraseDups_concat]
    by_cases hmem : last ∈ items
    · rw [if_pos hmem]
      exact ih
    · rw [if_neg hmem, ← List.concat_eq_append, List.nodup_concat]
      exact ⟨fun h => hmem (List.mem_eraseDups.1 h), ih⟩

/-- All items are equal if each two are. -/
lemma allEqual_iff {items : List α} : allEqual items ↔ ∀ a ∈ items, ∀ b ∈ items, a = b := by
  cases items with
  | nil => simp [allEqual]
  | cons first rest =>
    simp only [allEqual, List.all_eq_true, decide_eq_true_eq, List.mem_cons]
    constructor
    · intro h a ha b hb
      have hfirst : ∀ x, x = first ∨ x ∈ rest → first = x := by
        rintro x (rfl | hx)
        · rfl
        · exact h x hx
      exact (hfirst a ha).symm.trans (hfirst b hb)
    · exact fun h b hb => h first (.inl rfl) b (.inr hb)

end Lists

namespace Store

variable {s : Store}

/-- The value of a key in the table of a block is the one that its entry has. -/
lemma get?_entriesOf (block : Int) (key : Bytes) :
    Association.get? key (s.entriesOf block) = (s.entry? block key).map (·.value) := by
  unfold entriesOf entry?
  induction s.entries with
  | nil => rfl
  | cons row rest ih =>
    by_cases hblock : row.blockId = block
    · by_cases hkey : row.keyHash = key
      · simp [hblock, hkey, Association.get?]
      · simpa [hblock, hkey, Association.get?] using ih
    · simpa [hblock] using ih

/-- An entry that is answered is the one in the table of the block. -/
lemma getEntry_eq_ok {block : Int} {key : Bytes} {value : Option Bytes}
    (h : s.getEntry block (.bytes key) = .ok value) :
    Association.get? key (s.entriesOf block) = value := by
  simp only [getEntry, bind_eq_ok, pure_eq_ok] at h
  obtain ⟨key', hkey, -, -, rfl⟩ := h
  obtain rfl : key = key' := Except.ok.inj hkey
  exact get?_entriesOf block key

/-- A block that is answered is the one at the height, which is in range. -/
lemma getBlock_eq_ok {environment height : Int} {block : Block}
    (h : s.getBlock environment height = .ok block) :
    Storable height ∧ s.blockAt? environment height = some block := by
  simp only [getBlock, bind_eq_ok, storable_eq_ok, require_eq_ok] at h
  obtain ⟨-, -, -, hstorable, hblock⟩ := h
  exact ⟨hstorable, hblock⟩

namespace Consistent

/-- Two environments of a store with one id are the same. -/
lemma eq_of_id_eq (hs : s.Consistent) {a b : Environment} (ha : a ∈ s.environments)
    (hb : b ∈ s.environments) (hid : a.id = b.id) : a = b := by
  have hfound := hs.environment?_eq_some.2 ⟨ha, hid⟩
  rw [hs.environment?_eq_some.2 ⟨hb, rfl⟩] at hfound
  exact (Option.some.inj hfound).symm

/-- The environments that references stand for are environments of the store. -/
lemma mem_of_forall₂_resolve (hs : s.Consistent) {refs : List Reference} {rows : List Environment}
    (hrefs : List.Forall₂ (fun ref row => s.resolve ref = .ok row) refs rows) :
    ∀ row ∈ rows, row ∈ s.environments := by
  induction hrefs with
  | nil => exact nofun
  | @cons ref row refs rows hresolve _ ih =>
    intro other hother
    rcases List.mem_cons.1 hother with rfl | hrest
    · exact hs.mem_of_resolve hresolve
    · exact ih other hrest

/-- Different environments have different ids. -/
lemma nodup_ids_eraseDups (hs : s.Consistent) {rows : List Environment}
    (hrows : ∀ row ∈ rows, row ∈ s.environments) : (rows.eraseDups.map (·.id)).Nodup := by
  have hmem : ∀ row ∈ rows.eraseDups, row ∈ s.environments :=
    fun row hrow => hrows row (List.mem_eraseDups.1 hrow)
  exact (nodup_eraseDups rows).map_on fun a ha b hb hid => hs.eq_of_id_eq (hmem a ha) (hmem b hb) hid

/-- References are resolved one by one, and an environment counts where it is mentioned first. -/
lemma resolveDistinct_eq (hs : s.Consistent) {refs : List Reference} {rows : List Environment}
    (hrefs : List.Forall₂ (fun ref row => s.resolve ref = .ok row) refs rows) :
    s.resolveDistinct refs = .ok rows.eraseDups := by
  -- the rows seen so far are carried along
  have hfold : ∀ seen : List Environment, (∀ row ∈ seen, row ∈ s.environments) →
      refs.foldlM (fun known ref => do
        let row ← s.resolve ref
        return if known.any (·.id = row.id) then known else known ++ [row]) seen.eraseDups =
        .ok (seen ++ rows).eraseDups := by
    induction hrefs with
    | nil =>
      intro seen _
      rw [List.append_nil]
      rfl
    | @cons ref row refs rows hresolve _ ih =>
      intro seen hseen
      have hrow := hs.mem_of_resolve hresolve
      have hknown : seen.eraseDups.any (·.id = row.id) = true ↔ row ∈ seen := by
        simp only [List.any_eq_true, List.mem_eraseDups, decide_eq_true_eq]
        constructor
        · rintro ⟨other, hother, hid⟩
          exact hs.eq_of_id_eq (hseen other hother) hrow hid ▸ hother
        · exact fun hmem => ⟨row, hmem, rfl⟩
      have hnext := ih (seen ++ [row]) fun other hother => by
        rcases List.mem_append.1 hother with hold | hlast
        · exact hseen other hold
        · exact List.mem_singleton.1 hlast ▸ hrow
      rw [List.append_assoc, eraseDups_concat] at hnext
      rw [List.foldlM_cons, hresolve]
      simp only [ok_bind, pure_bind, hknown]
      exact hnext
  exact hfold [] nofun

/-- The blocks of environments that all have one at the height. -/
lemma blocksAt_eq {rows : List Environment} {block : Environment → Block} {height : Int}
    (hne : rows ≠ []) (hblocks : ∀ row ∈ rows, s.getBlock row.id height = .ok (block row)) :
    s.blocksAt (rows.map (·.id)) height = .ok (rows.map fun row => (row.id, block row)) := by
  obtain ⟨first, hfirst⟩ := List.exists_mem_of_ne_nil rows hne
  have hstorable : storable height = .ok () :=
    storable_eq_ok.2 (getBlock_eq_ok (hblocks first hfirst)).1
  have hmissing : (rows.map (·.id)).filter
      (fun environment => (s.blockAt? environment height).isNone) = [] := by
    rw [List.filter_eq_nil_iff]
    intro id hid
    obtain ⟨row, hrow, rfl⟩ := List.mem_map.1 hid
    simp [(getBlock_eq_ok (hblocks row hrow)).2]
  have hfound : (rows.map (·.id)).filterMap (fun environment =>
      (s.blockAt? environment height).map (environment, ·)) = rows.map fun row => (row.id, block row) := by
    rw [List.filterMap_map, ← List.filterMap_eq_map]
    apply List.filterMap_congr
    intro row hrow
    simp [(getBlock_eq_ok (hblocks row hrow)).2]
  rw [blocksAt, hstorable, hmissing, hfound]
  rfl

/-- The report on environments that all have a block at the height. -/
lemma compareHeights_eq (hs : s.Consistent) {refs : List Reference} {rows : List Environment}
    (hrefs : List.Forall₂ (fun ref row => s.resolve ref = .ok row) refs rows)
    (hmany : 2 ≤ rows.eraseDups.length) {height : Int} {block : Environment → Block}
    (hblocks : ∀ row ∈ rows.eraseDups, s.getBlock row.id height = .ok (block row)) :
    let blocks := rows.eraseDups.map fun row => (row.id, block row)
    let agree := allEqual (rows.eraseDups.map fun row => (block row).trieRoot)
    s.compareHeights refs (.int height) = .ok {
      height, environments := rows.eraseDups, blocks
      verdict := if agree then .agreement else .disagreement
      entryDivergences := if agree then [] else s.entryDivergences blocks
      contractDivergences := s.contractDivergences blocks } := by
  have hne : rows.eraseDups ≠ [] := fun hnil => by simp [hnil] at hmany
  obtain ⟨first, hfirst⟩ := List.exists_mem_of_ne_nil _ hne
  obtain ⟨-, hfound⟩ := getBlock_eq_ok (hblocks first hfirst)
  obtain ⟨hblock, hplace⟩ := hs.blockAt?_eq_some.1 hfound
  have hheight : 0 ≤ height := by
    rw [← (Prod.mk.inj hplace).2]
    exact (hs.heights _ hblock).1
  simp only [compareHeights, height_int, ensure, if_pos hheight, ok_bind, hs.resolveDistinct_eq hrefs,
    if_pos hmany, blocksAt_eq hne hblocks, List.map_map]
  rfl

/-- What is reported of blocks, in terms of the values that they hold. -/
lemma entryDivergences_of_values {rows : List Environment} {block : Environment → Block}
    {value : Environment → Bytes → Option Bytes}
    (hvalues : ∀ row ∈ rows, ∀ key, s.getEntry (block row).id (.bytes key) = .ok (value row key)) :
    ∃ keys : List Bytes, keys.Pairwise (· < ·) ∧
      (∀ key, key ∈ keys ↔ ∃ a ∈ rows, ∃ b ∈ rows, value a key ≠ value b key) ∧
      s.entryDivergences (rows.map fun row => (row.id, block row)) = keys.flatMap fun key =>
        rows.map fun row => ⟨key, row.id, value row key⟩ := by
  refine ⟨keysDiffering (rows.map fun row => (row.id, s.entriesOf (block row).id)),
    pairwise_keysDiffering _, fun key => ?_, ?_⟩
  · simp only [mem_keysDiffering, List.mem_map, exists_exists_and_eq_and]
    constructor
    · rintro ⟨a, ha, b, hb, hne⟩
      rw [getEntry_eq_ok (hvalues a ha key), getEntry_eq_ok (hvalues b hb key)] at hne
      exact ⟨a, ha, b, hb, hne⟩
    · rintro ⟨a, ha, b, hb, hne⟩
      refine ⟨a, ha, b, hb, ?_⟩
      rw [getEntry_eq_ok (hvalues a ha key), getEntry_eq_ok (hvalues b hb key)]
      exact hne
  · rw [entryDivergences_eq, divergencesOf, List.map_map]
    apply List.flatMap_congr
    intro key _
    rw [List.map_map]
    apply List.map_congr_left
    intro row hrow
    simp [getEntry_eq_ok (hvalues row hrow key)]

end Consistent

/-- Environments that all have a block at a height are compared: they agree exactly if the roots of
the blocks are equal, and otherwise the keys on which the blocks are not all equal are listed in
ascending order, each with its value in every environment in the order of first mention. -/
theorem Reachable.compareHeights_exact (hs : s.Reachable) {refs : List Reference}
    {rows : List Environment}
    (hrefs : List.Forall₂ (fun ref row => s.resolve ref = .ok row) refs rows)
    (hmany : 2 ≤ rows.eraseDups.length) {height : Int} {block : Environment → Block}
    (hblocks : ∀ row ∈ rows, s.getBlock row.id height = .ok (block row))
    {value : Environment → Bytes → Option Bytes}
    (hvalues : ∀ row ∈ rows, ∀ key, s.getEntry (block row).id (.bytes key) = .ok (value row key)) :
    ∃ report, s.compareHeights refs (.int height) = .ok report ∧
      report.environments = rows.eraseDups ∧
      (report.verdict = .agreement ↔
        ∀ a ∈ rows, ∀ b ∈ rows, (block a).trieRoot = (block b).trieRoot) ∧
      (report.verdict = .agreement → report.entryDivergences = []) ∧
      (report.verdict = .disagreement → ∃ keys : List Bytes, keys.Pairwise (· < ·) ∧
        (∀ key, key ∈ keys ↔ ∃ a ∈ rows, ∃ b ∈ rows, value a key ≠ value b key) ∧
        report.entryDivergences = keys.flatMap fun key =>
          rows.eraseDups.map fun row => ⟨key, row.id, value row key⟩) ∧
      (report.entryDivergences.map fun divergence =>
        (divergence.keyHash, divergence.environment)).Nodup := by
  have hconsistent := hs.consistent
  have hmem : ∀ {row}, row ∈ rows.eraseDups ↔ row ∈ rows := List.mem_eraseDups
  have hreport := hconsistent.compareHeights_eq hrefs hmany
    fun row hrow => hblocks row (hmem.1 hrow)
  obtain ⟨keys, hsorted, hkeys, hdivergences⟩ := Consistent.entryDivergences_of_values
    fun row (hrow : row ∈ rows.eraseDups) => hvalues row (hmem.1 hrow)
  simp only [hmem] at hkeys
  -- the verdict is read off the roots alone
  have hroots : allEqual (rows.eraseDups.map fun row => (block row).trieRoot) = true ↔
      ∀ a ∈ rows, ∀ b ∈ rows, (block a).trieRoot = (block b).trieRoot := by
    simp only [allEqual_iff, List.forall_mem_map, hmem]
  cases hagree : allEqual (rows.eraseDups.map fun row => (block row).trieRoot) with
  | true =>
    simp only [hagree, if_true] at hreport
    refine ⟨_, hreport, rfl, ⟨fun _ => hroots.1 hagree, fun _ => rfl⟩, fun _ => rfl, nofun, ?_⟩
    exact List.nodup_nil
  | false =>
    simp only [hagree, Bool.false_eq_true, if_false] at hreport
    have hdiffer : ¬ ∀ a ∈ rows, ∀ b ∈ rows, (block a).trieRoot = (block b).trieRoot := by
      rw [← hroots, hagree]
      exact Bool.false_ne_true
    refine ⟨_, hreport, rfl, ⟨nofun, fun h => absurd h hdiffer⟩, nofun,
      fun _ => ⟨keys, hsorted, hkeys, hdivergences⟩, ?_⟩
    rw [entryDivergences_eq, List.map_map]
    apply nodup_divergencesOf
    rw [List.map_map]
    exact hconsistent.nodup_ids_eraseDups (hconsistent.mem_of_forall₂_resolve hrefs)

/-- Three environments, one of them mentioned twice, that agree on one key: one block misses a key of
the others, and has another value for a key that comes later. -/
theorem compareHeights_exact_of_mentions :
    let payload (environment : Value) (root : UInt8) (entries : List (UInt8 × UInt8)) : Value :=
      .record [("environment", environment), ("height", .int 4), ("index_hash", .bytes [1]),
        ("trie_root_hash", .bytes [root]),
        ("entries", .list (entries.map fun (key, value) =>
          .record [("key_hash", .bytes [key]), ("value", .bytes [value])])),
        ("contracts", .list []), ("executions", .list []), ("variables", .list []),
        ("maps", .list [])]
    let steps : List Step := [.call (.createEnvironment (.text "a") (.int 1) (.text "/a")),
      .call (.createEnvironment (.text "b") (.int 2) (.text "/b")),
      .call (.createEnvironment (.text "c") (.int 0) (.text "/c")),
      .call (.applyBlock (payload (.text "a") 7 [(200, 2), (9, 1), (8, 3)])),
      .call (.applyBlock (payload (.text "b") 8 [(9, 1), (200, 4)])),
      .call (.applyBlock (payload (.text "c") 7 [(9, 1), (200, 2), (8, 3)]))]
    let s : Store := (Step.runAll {} steps).2.tables
    ∃ report, s.compareHeights [.name "b", .id 1, .id 2, .name "c"] (.int 4) = .ok report ∧
      report.environments.map (·.id) = [2, 1, 3] ∧ report.verdict = .disagreement ∧
      (∃ keys : List Bytes, keys.Pairwise (· < ·) ∧ [8] ∈ keys ∧ [9] ∉ keys ∧
        report.entryDivergences.map (·.keyHash) = keys.flatMap fun key => [key, key, key]) ∧
      (report.entryDivergences.map fun divergence =>
        (divergence.keyHash, divergence.environment)).Nodup := by
  intro payload steps s
  have hs : s.Reachable := (Step.reachable_runAll (.new false) steps (by decide)).stores.1
  let a : Environment := ⟨1, "a", .interpreter, "/a", some 4⟩
  let b : Environment := ⟨2, "b", .wasm, "/b", some 4⟩
  let c : Environment := ⟨3, "c", .none, "/c", some 4⟩
  let block (row : Environment) : Block := (s.blockAt? row.id 4).getD default
  let value (row : Environment) (key : Bytes) : Option Bytes :=
    (s.entry? (block row).id key).map (·.value)
  have hrefs : List.Forall₂ (fun ref row => s.resolve ref = .ok row)
      [.name "b", .id 1, .id 2, .name "c"] [b, a, b, c] :=
    .cons (by decide +kernel) (.cons (by decide +kernel) (.cons (by decide +kernel)
      (.cons (by decide +kernel) .nil)))
  have hblocks : ∀ row ∈ [b, a, b, c], s.getBlock row.id 4 = .ok (block row) := by decide +kernel
  have hvalues : ∀ row ∈ [b, a, b, c], ∀ key,
      s.getEntry (block row).id (.bytes key) = .ok (value row key) := by
    intro row hrow key
    have hid : storableId (s.blocks.map (·.id)) (block row).id = .ok () := by
      revert row
      decide +kernel
    rw [getEntry, hid]
    rfl
  obtain ⟨report, hreport, henvironments, hverdict, -, hlisted, hnodup⟩ :=
    hs.compareHeights_exact hrefs (by decide) hblocks hvalues
  have hdisagree : report.verdict = .disagreement := by
    cases hcase : report.verdict with
    | agreement => exact absurd (hverdict.1 hcase) (by decide +kernel)
    | disagreement => rfl
  obtain ⟨keys, hsorted, hkeys, hdivergences⟩ := hlisted hdisagree
  have hrows : [b, a, b, c].eraseDups = [b, a, c] := by decide
  refine ⟨report, hreport, ?_, hdisagree, ⟨keys, hsorted, ?_, ?_, ?_⟩, hnodup⟩
  · rw [henvironments, hrows]
    rfl
  · exact (hkeys [8]).2 ⟨a, by decide, b, by decide, by decide +kernel⟩
  · rw [hkeys]
    decide +kernel
  · rw [hdivergences, hrows, List.map_flatMap]
    rfl

end Store

end ReplayLedger
