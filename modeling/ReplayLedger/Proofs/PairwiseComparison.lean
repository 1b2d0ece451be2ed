import ReplayLedger.Proofs.ContractDivergence

/-!
# Comparisons of many environments as comparisons of two

A comparison of many environments finds what the comparisons of two of them find, and nothing else: they
agree exactly if every two agree, and a key of the state or a place of contract data diverges exactly if
it does so for some two.

For keys of the state this is not evident.  Their values are only looked at where the roots differ, and
a comparison of many looks at all values as soon as two roots differ.  So it may find a key on which two
blocks with the same root differ, and the comparison of these two finds nothing.  But then some third
block has another root.  Its value cannot be both of theirs, so the key is found when the third is
compared with one of the two (`exists_differ_in_both`).

Main statement: `Store.Reachable.compareHeights_pairwise`.
-/

namespace ReplayLedger

section Pairs

variable {α β γ : Type} {items : List α}

/-- If neither of two features is the same for all items, some two items differ in both. -/
lemma exists_differ_in_both {f : α → β} {g : α → γ} (hf : ∃ a ∈ items, ∃ b ∈ items, f a ≠ f b)
    (hg : ∃ a ∈ items, ∃ b ∈ items, g a ≠ g b) :
    ∃ a ∈ items, ∃ b ∈ items, f a ≠ f b ∧ g a ≠ g b := by
  obtain ⟨a, ha, b, hb, hgab⟩ := hg
  by_cases hfab : f a = f b
  · -- some item differs from `a` in the first feature, and so from `b`
    obtain ⟨c, hc, hfc⟩ : ∃ c ∈ items, f c ≠ f a := by
      by_contra hnone
      push Not at hnone
      obtain ⟨x, hx, y, hy, hne⟩ := hf
      exact hne ((hnone x hx).trans (hnone y hy).symm)
    by_cases hgc : g c = g a
    · refine ⟨c, hc, b, hb, ?_, ?_⟩
      · rw [← hfab]
        exact hfc
      · rw [hgc]
        exact hgab
    · exact ⟨c, hc, a, ha, hfc, hgc⟩
  · exact ⟨a, ha, b, hb, hfab, hgab⟩

/-- Two items are not all the same if they differ from each other. -/
lemma exists_differ_pair {f : α → β} {a b : α} :
    (∃ x ∈ [a, b], ∃ y ∈ [a, b], f x ≠ f y) ↔ f a ≠ f b := by
  constructor
  · rintro ⟨x, hx, y, hy, hne⟩ hsame
    have hall : ∀ z ∈ [a, b], f z = f a := by simp [hsame]
    exact hne ((hall x hx).trans (hall y hy).symm)
  · exact fun hne => ⟨a, by simp, b, by simp, hne⟩

end Pairs

namespace Store

variable {s : Store} {rows : List Environment} {block : Environment → Block} {height : Int}

/-! ## What a report tells of given blocks -/

/-- Every key that differs is reported. -/
lemma mem_keys_divergencesOf {tables : List (Int × List (Bytes × Bytes))} {key : Bytes} :
    key ∈ (divergencesOf tables).map (·.keyHash) ↔ key ∈ keysDiffering tables := by
  rw [divergencesOf, List.map_flatMap, List.mem_flatMap]
  simp only [List.map_map, List.mem_map, Function.comp_apply]
  constructor
  · rintro ⟨found, hfound, -, -, rfl⟩
    exact hfound
  · intro hkey
    -- a key that differs is reported for some table, as there is one
    obtain ⟨table, htable, -⟩ := mem_keysDiffering.1 hkey
    exact ⟨key, hkey, table, htable, rfl⟩

/-- The keys that diverge are those on which not all blocks are equal, provided that not all roots are
equal. -/
lemma mem_divergingKeys_reportOn {key : Bytes} :
    key ∈ (s.reportOn rows block height).divergingKeys ↔
      (∃ a ∈ rows, ∃ b ∈ rows, (block a).trieRoot ≠ (block b).trieRoot) ∧
      ∃ a ∈ rows, ∃ b ∈ rows, Association.get? key (s.entriesOf (block a).id) ≠
        Association.get? key (s.entriesOf (block b).id) := by
  have hroots : allEqual (rows.map fun row => (block row).trieRoot) = false ↔
      ∃ a ∈ rows, ∃ b ∈ rows, (block a).trieRoot ≠ (block b).trieRoot := by
    rw [← Bool.not_eq_true, allEqual_iff]
    simp only [List.forall_mem_map]
    push Not
    rfl
  rw [← hroots, Report.divergingKeys, mem_sortDistinct, entryDivergences_reportOn]
  cases allEqual (rows.map fun row => (block row).trieRoot) with
  | true => simp
  | false =>
    rw [if_neg Bool.false_ne_true, mem_keys_divergencesOf, mem_keysDiffering]
    simp only [true_and, List.mem_map, exists_exists_and_eq_and]

/-- A slot is reported if two environments differ in it. -/
lemma mem_slots_reportOn {slot : ContractSlot} :
    slot ∈ (s.reportOn rows block height).contractDivergences.map (·.slot) ↔
      ∃ a ∈ rows, ∃ b ∈ rows, s.slotValue (block a).id slot ≠ s.slotValue (block b).id slot := by
  rw [contractDivergences_reportOn, List.map_map, ← mem_slotsDivergingAt]
  exact iff_of_eq (congrArg (slot ∈ ·) (List.map_id _))

/-! ## Two environments -/

/-- Two environments agree if their roots are equal. -/
lemma verdict_reportOn_pair {a b : Environment} :
    (s.reportOn [a, b] block height).verdict = .agreement ↔
      (block a).trieRoot = (block b).trieRoot := by
  rw [verdict_reportOn, ← not_iff_not]
  push Not
  exact exists_differ_pair

/-- A key of two environments is reported if their roots and their values differ. -/
lemma mem_divergingKeys_pair {a b : Environment} {key : Bytes} :
    key ∈ (s.reportOn [a, b] block height).divergingKeys ↔
      (block a).trieRoot ≠ (block b).trieRoot ∧
      Association.get? key (s.entriesOf (block a).id) ≠
        Association.get? key (s.entriesOf (block b).id) := by
  rw [mem_divergingKeys_reportOn, exists_differ_pair (f := fun row => (block row).trieRoot),
    exists_differ_pair (f := fun row => Association.get? key (s.entriesOf (block row).id))]

/-- A slot of two environments is reported if their values differ. -/
lemma mem_slots_pair {a b : Environment} {slot : ContractSlot} :
    slot ∈ (s.reportOn [a, b] block height).contractDivergences.map (·.slot) ↔
      s.slotValue (block a).id slot ≠ s.slotValue (block b).id slot := by
  rw [mem_slots_reportOn, exists_differ_pair (f := fun row => s.slotValue (block row).id slot)]

/-- Two different environments are compared, whatever references stand for them. -/
lemma Consistent.compareHeights_pair (hs : s.Consistent) {a b : Environment} (hne : a ≠ b)
    {ref ref' : Reference} (ha : s.resolve ref = .ok a) (hb : s.resolve ref' = .ok b)
    (hblocks : ∀ row ∈ [a, b], s.getBlock row.id height = .ok (block row)) :
    s.compareHeights [ref, ref'] (.int height) = .ok (s.reportOn [a, b] block height) := by
  have hrefs : List.Forall₂ (fun ref row => s.resolve ref = .ok row) [ref, ref'] [a, b] :=
    .cons ha (.cons hb .nil)
  have hdistinct : [a, b].eraseDups = [a, b] := by
    simp [List.eraseDups_cons, hne.symm]
  have hreport := hs.compareHeights_eq hrefs (by rw [hdistinct]; exact le_rfl)
    (by rw [hdistinct]; exact hblocks)
  rw [hdistinct] at hreport
  exact hreport

/-- A comparison of environments that all have a block at a height finds what the comparisons of any
two of them find.  They agree if every two agree, and what diverges among them diverges for some two;
for keys this is so even where blocks with equal roots hold different entries. -/
theorem Reachable.compareHeights_pairwise (hs : s.Reachable) {refs : List Reference}
    (hrefs : List.Forall₂ (fun ref row => s.resolve ref = .ok row) refs rows)
    (hmany : 2 ≤ rows.eraseDups.length)
    (hblocks : ∀ row ∈ rows, s.getBlock row.id height = .ok (block row)) :
    ∃ report, s.compareHeights refs (.int height) = .ok report ∧
      ∃ pair : Environment → Environment → Report,
        (∀ a ∈ rows, ∀ b ∈ rows, a ≠ b → ∀ ref ref', s.resolve ref = .ok a → s.resolve ref' = .ok b →
          s.compareHeights [ref, ref'] (.int height) = .ok (pair a b)) ∧
        (report.verdict = .agreement ↔
          ∀ a ∈ rows, ∀ b ∈ rows, a ≠ b → (pair a b).verdict = .agreement) ∧
        (∀ slot, slot ∈ report.contractDivergences.map (·.slot) ↔
          ∃ a ∈ rows, ∃ b ∈ rows, a ≠ b ∧ slot ∈ (pair a b).contractDivergences.map (·.slot)) ∧
        ∀ key, key ∈ report.divergingKeys ↔
          ∃ a ∈ rows, ∃ b ∈ rows, a ≠ b ∧ key ∈ (pair a b).divergingKeys := by
  have hmem : ∀ {row}, row ∈ rows.eraseDups ↔ row ∈ rows := List.mem_eraseDups
  have hreport : s.compareHeights refs (.int height) =
      .ok (s.reportOn rows.eraseDups block height) :=
    hs.consistent.compareHeights_eq hrefs hmany fun row hrow => hblocks row (hmem.1 hrow)
  refine ⟨_, hreport, fun a b => s.reportOn [a, b] block height, ?_, ?_, ?_, ?_⟩
  · intro a ha b hb hne ref ref' href href'
    refine hs.consistent.compareHeights_pair hne href href' fun row hrow => hblocks row ?_
    rcases List.mem_pair.1 hrow with rfl | rfl
    · exact ha
    · exact hb
  · simp only [verdict_reportOn_pair]
    simp only [verdict_reportOn, hmem]
    constructor
    · exact fun h a ha b hb _ => h a ha b hb
    · intro h a ha b hb
      by_cases hsame : a = b
      · rw [hsame]
      · exact h a ha b hb hsame
  · intro slot
    simp only [mem_slots_pair]
    simp only [mem_slots_reportOn, hmem]
    constructor
    · rintro ⟨a, ha, b, hb, hdiffer⟩
      exact ⟨a, ha, b, hb, fun hsame => hdiffer (by rw [hsame]), hdiffer⟩
    · rintro ⟨a, ha, b, hb, -, hdiffer⟩
      exact ⟨a, ha, b, hb, hdiffer⟩
  · intro key
    simp only [mem_divergingKeys_pair]
    simp only [mem_divergingKeys_reportOn, hmem]
    constructor
    · rintro ⟨hroots, hvalues⟩
      obtain ⟨a, ha, b, hb, hroot, hvalue⟩ := exists_differ_in_both hroots hvalues
      exact ⟨a, ha, b, hb, fun hsame => hroot (by rw [hsame]), hroot, hvalue⟩
    · rintro ⟨a, ha, b, hb, -, hroot, hvalue⟩
      exact ⟨⟨a, ha, b, hb, hroot⟩, a, ha, b, hb, hvalue⟩

/-- Two environments with the same root hold different entries, and a third one has another root: the
comparison of the two finds no key, that of all three finds the one on which they differ, and so does
that of the second and the third. -/
theorem compareHeights_pairwise_of_equal_roots :
    let payload (environment : String) (root value : UInt8) : Value :=
      .record [("environment", .text environment), ("height", .int 4), ("index_hash", .bytes [1]),
        ("trie_root_hash", .bytes [root]),
        ("entries", .list [.record [("key_hash", .bytes [9]), ("value", .bytes [value])]]),
        ("contracts", .list []), ("executions", .list []), ("variables", .list []),
        ("maps", .list [])]
    let steps : List Step := [.call (.createEnvironment (.text "a") (.int 1) (.text "/a")),
      .call (.createEnvironment (.text "b") (.int 2) (.text "/b")),
      .call (.createEnvironment (.text "c") (.int 0) (.text "/c")),
      .call (.applyBlock (payload "a" 7 1)), .call (.applyBlock (payload "b" 7 2)),
      .call (.applyBlock (payload "c" 8 1))]
    let s : Store := (Step.runAll {} steps).2.tables
    ∃ report ab bc, s.compareHeights [.id 1, .name "b", .id 2, .id 3] (.int 4) = .ok report ∧
      s.compareHeights [.name "a", .id 2] (.int 4) = .ok ab ∧
      s.compareHeights [.id 2, .name "c"] (.int 4) = .ok bc ∧
      ab.verdict = .agreement ∧ report.verdict ≠ .agreement ∧
      [9] ∉ ab.divergingKeys ∧ [9] ∈ bc.divergingKeys ∧ [9] ∈ report.divergingKeys := by
  intro payload steps s
  have hs : s.Reachable := (Step.reachable_runAll (.new false) steps (by decide)).stores.1
  let a : Environment := ⟨1, "a", .interpreter, "/a", some 4⟩
  let b : Environment := ⟨2, "b", .wasm, "/b", some 4⟩
  let c : Environment := ⟨3, "c", .none, "/c", some 4⟩
  have hrefs : List.Forall₂ (fun ref row => s.resolve ref = .ok row)
      [.id 1, .name "b", .id 2, .id 3] [a, b, b, c] :=
    .cons (by decide +kernel) (.cons (by decide +kernel) (.cons (by decide +kernel)
      (.cons (by decide +kernel) .nil)))
  have hblocks : ∀ row ∈ [a, b, b, c], s.getBlock row.id 4 = .ok (s.blockOf 4 row) := by
    decide +kernel
  obtain ⟨report, hreport, pair, hpair, hverdict, -, hkeys⟩ :=
    hs.compareHeights_pairwise hrefs (by decide) hblocks
  have hab := hpair a (by decide) b (by decide) (by decide) (.name "a") (.id 2) (by decide +kernel)
    (by decide +kernel)
  have hbc := hpair b (by decide) c (by decide) (by decide) (.id 2) (.name "c") (by decide +kernel)
    (by decide +kernel)
  have hequal : (s.compareHeights [.name "a", .id 2] (.int 4)).map (fun report =>
      (report.verdict, report.divergingKeys)) = .ok (.agreement, []) := by
    decide +kernel
  have hother : (s.compareHeights [.id 2, .name "c"] (.int 4)).map (fun report =>
      (report.verdict, report.divergingKeys)) = .ok (.disagreement, [[9]]) := by
    decide +kernel
  rw [hab] at hequal
  rw [hbc] at hother
  obtain ⟨hagree, hnone⟩ := Prod.mk.inj (Except.ok.inj hequal)
  obtain ⟨hdisagree, hnine⟩ := Prod.mk.inj (Except.ok.inj hother)
  have hfound : [9] ∈ (pair b c).divergingKeys := by
    rw [hnine]
    exact List.mem_singleton_self _
  refine ⟨report, pair a b, pair b c, hreport, hab, hbc, hagree, ?_, ?_, hfound, ?_⟩
  · intro hall
    have hbc := hverdict.1 hall b (by decide) c (by decide) (by decide)
    rw [hdisagree] at hbc
    cases hbc
  · rw [hnone]
    exact List.not_mem_nil
  · exact (hkeys [9]).2 ⟨b, by decide, c, by decide, by decide, hfound⟩

end Store

end ReplayLedger
