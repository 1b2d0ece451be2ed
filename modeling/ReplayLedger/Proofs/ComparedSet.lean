import ReplayLedger.Proofs.ContractDivergence
import Mathlib.Data.List.Perm.Basic

/-!
# What a comparison depends on

References may name an environment by id or by name, several of them may name the same one, and they
come in some order.  A comparison goes through them in this order, but what it finds only depends on
which environments are named: references to the same environments give the same verdict, the same
roots and the same divergences, or are refused with the same error.

The order of first mention is left in a report as the order of the environments and of the values
listed for them, so reports are compared as tables by environment (`Association.Same`,
`Report.SameFindings`).  Without repetitions, references to the same environments differ by a
permutation, and that is carried through the comparison (`Store.compareAmong_perm`).

Main statement: `Store.Reachable.sameOutcome_of_same_environments`.
-/

namespace ReplayLedger

/-- Two tables with one value for a key are the same except for the order of their pairs. -/
structure Association.Same {κ α : Type} (table table' : List (κ × α)) : Prop where
  distinct : (table.map (·.1)).Nodup
  perm : table.Perm table'

/-- Two reports tell the same of the same environments.  Only the order of the environments may be
another one. -/
structure Report.SameFindings (report report' : Report) : Prop where
  height : report.height = report'.height
  environments : report.environments.Perm report'.environments
  verdict : report.verdict = report'.verdict
  roots : Association.Same report.trieRoots report'.trieRoots
  keys : report.divergingKeys = report'.divergingKeys
  entries : report.entryDivergences.Perm report'.entryDivergences
  contracts : List.Forall₂ (fun divergence divergence' => divergence.slot = divergence'.slot ∧
      Association.Same divergence.values divergence'.values)
    report.contractDivergences report'.contractDivergences

/-- Two comparisons come out alike: both report the same findings, or both are refused with the same
error. -/
inductive SameOutcome : Except Error Report → Except Error Report → Prop
  | reported {report report' : Report} (h : report.SameFindings report') :
      SameOutcome (.ok report) (.ok report')
  | refused (e : Error) : SameOutcome (.error e) (.error e)

/-- Comparisons that begin alike come out alike if they go on alike. -/
lemma SameOutcome.bind {α : Type} {x : Except Error α} {f g : α → Except Error Report}
    (h : ∀ a, x = .ok a → SameOutcome (f a) (g a)) : SameOutcome (x >>= f) (x >>= g) := by
  cases x with
  | ok a => exact h a rfl
  | error e => exact .refused e

/-! ## Tables in another order -/

/-- The same slots are found in tables in whatever order. -/
lemma slotsDiffering_perm {κ : Type} [DecidableEq κ] {lt : κ → κ → Bool} {R : κ → κ → Prop}
    [IsStrictTotalOrder κ R] (hlt : ∀ a b, lt a b = true ↔ R a b)
    {tables tables' : List (Int × List (κ × Bytes))} (hperm : tables.Perm tables') :
    slotsDiffering lt tables = slotsDiffering lt tables' := by
  refine eq_of_ascending (ascending_slotsDiffering hlt) (ascending_slotsDiffering hlt) fun slot => ?_
  simp only [mem_slotsDiffering, hperm.mem_iff]

/-- The same keys are found in tables in whatever order. -/
lemma keysDiffering_perm {tables tables' : List (Int × List (Bytes × Bytes))}
    (hperm : tables.Perm tables') : keysDiffering tables = keysDiffering tables' := by
  refine eq_of_ascending (pairwise_keysDiffering tables) (pairwise_keysDiffering tables') fun key => ?_
  simp only [mem_keysDiffering, hperm.mem_iff]

/-- Tables in another order diverge in the same keys, which may come in another order. -/
lemma divergencesOf_perm {tables tables' : List (Int × List (Bytes × Bytes))}
    (hperm : tables.Perm tables') : (divergencesOf tables).Perm (divergencesOf tables') := by
  unfold divergencesOf
  rw [keysDiffering_perm hperm]
  exact List.Perm.flatMap_left _ fun key _ => hperm.map _

/-- Whether all items are equal does not depend on their order. -/
lemma allEqual_perm {α : Type} [DecidableEq α] {items items' : List α} (hperm : items.Perm items') :
    allEqual items = allEqual items' := by
  rw [Bool.eq_iff_iff, allEqual_iff, allEqual_iff]
  simp only [hperm.mem_iff]

namespace Store

variable {s : Store} {rows rows' : List Environment}

/-! ## Environments in another order -/

/-- Which slots diverge does not depend on the order of the environments. -/
lemma slotsDivergingAt_perm (hperm : rows.Perm rows') (block : Environment → Block) :
    s.slotsDivergingAt rows block = s.slotsDivergingAt rows' block := by
  unfold slotsDivergingAt
  rw [slotsDiffering_perm VariableSlot.lt_iff (hperm.map _),
    slotsDiffering_perm MapSlot.lt_iff (hperm.map _)]

/-- What is listed for each environment makes the same table in whatever order they come. -/
lemma same_of_perm {α : Type} (hids : (rows.map (·.id)).Nodup) (hperm : rows.Perm rows')
    (value : Environment → α) : Association.Same (rows.map fun row => (row.id, value row))
      (rows'.map fun row => (row.id, value row)) := by
  refine ⟨?_, hperm.map _⟩
  rw [List.map_map]
  exact hids

/-- A report on environments in another order tells the same. -/
lemma reportOn_perm (hids : (rows.map (·.id)).Nodup) (hperm : rows.Perm rows')
    (block : Environment → Block) (height : Int) :
    (s.reportOn rows block height).SameFindings (s.reportOn rows' block height) := by
  have hagree : allEqual (rows.map fun row => (block row).trieRoot) =
      allEqual (rows'.map fun row => (block row).trieRoot) := allEqual_perm (hperm.map _)
  have hentries : (s.reportOn rows block height).entryDivergences.Perm
      (s.reportOn rows' block height).entryDivergences := by
    rw [entryDivergences_reportOn, entryDivergences_reportOn, hagree]
    split
    · exact .rfl
    · exact divergencesOf_perm (hperm.map _)
  refine ⟨rfl, hperm, ?_, ?_, ?_, hentries, ?_⟩
  · simp only [reportOn, hagree]
  · simp only [Report.trieRoots, reportOn, List.map_map]
    exact same_of_perm hids hperm fun row => (block row).trieRoot
  · exact sortDistinct_congr Bytes.lt_iff fun key => (hentries.map _).mem_iff
  · rw [contractDivergences_reportOn, contractDivergences_reportOn, slotsDivergingAt_perm hperm,
      List.forall₂_map_left_iff, List.forall₂_map_right_iff]
    exact List.forall₂_same.2 fun slot _ => ⟨rfl, same_of_perm hids hperm _⟩

/-- Environments in another order are compared alike. -/
lemma compareAmong_perm (hids : (rows.map (·.id)).Nodup) (hperm : rows.Perm rows')
    (height : Value) : SameOutcome (s.compareAmong rows height) (s.compareAmong rows' height) := by
  unfold compareAmong
  refine .bind fun n _ => ?_
  rw [hperm.length_eq]
  refine .bind fun _ _ => .bind fun _ _ => ?_
  have hlacking : (s.lackingAt n rows).Perm (s.lackingAt n rows') := hperm.filter _
  have hnone : s.lackingAt n rows = [] ↔ s.lackingAt n rows' = [] := by
    rw [← List.length_eq_zero_iff, hlacking.length_eq, List.length_eq_zero_iff]
  have hnamed : sortDistinct intLt ((s.lackingAt n rows).map (·.id)) =
      sortDistinct intLt ((s.lackingAt n rows').map (·.id)) :=
    sortDistinct_congr intLt_iff fun id => (hlacking.map _).mem_iff
  simp only [hnone, hnamed]
  exact .bind fun _ _ => .reported (reportOn_perm hids hperm _ n)

/-- References to the same environments are compared alike, whether by id or by name, in whatever
order and however often each environment is mentioned. -/
theorem Reachable.sameOutcome_of_same_environments (hs : s.Reachable)
    {refs refs' : List Reference}
    (hrefs : List.Forall₂ (fun ref row => s.resolve ref = .ok row) refs rows)
    (hrefs' : List.Forall₂ (fun ref row => s.resolve ref = .ok row) refs' rows')
    (hsame : ∀ row, row ∈ rows ↔ row ∈ rows') (height : Value) :
    SameOutcome (s.compareHeights refs height) (s.compareHeights refs' height) := by
  have hconsistent := hs.consistent
  have hids : (rows.eraseDups.map (·.id)).Nodup :=
    hconsistent.nodup_ids_eraseDups (hconsistent.mem_of_forall₂_resolve hrefs)
  have hperm : rows.eraseDups.Perm rows'.eraseDups := by
    refine (List.perm_ext_iff_of_nodup (nodup_eraseDups rows) (nodup_eraseDups rows')).2 fun row => ?_
    rw [List.mem_eraseDups, List.mem_eraseDups, hsame]
  rw [hconsistent.compareHeights_eq_among hrefs, hconsistent.compareHeights_eq_among hrefs']
  exact compareAmong_perm hids hperm height

/-- Three environments that disagree at one height, where another order and other repetitions lead to
the same findings, and two of which have no block at the next height, whoever is mentioned first. -/
theorem sameOutcome_of_aliases :
    let payload (environment : String) (height : Int) (root : UInt8)
        (entries : List (UInt8 × UInt8)) (value : UInt8) : Value :=
      .record [("environment", .text environment), ("height", .int height),
        ("index_hash", .bytes [height.toNat.toUInt8]), ("trie_root_hash", .bytes [root]),
        ("entries", .list (entries.map fun (key, value) =>
          .record [("key_hash", .bytes [key]), ("value", .bytes [value])])),
        ("contracts", .list (if height = 4
          then [.record [("qualified_id", .text "c"), ("source", .bytes [])]] else [])),
        ("executions", .list [.record [("contract", .text "c"), ("tx_id", .bytes [5])]]),
        ("variables", .list [.record [("contract", .text "c"), ("key", .text "k"),
          ("tx_id", .bytes [5]), ("value", .bytes [value])]]),
        ("maps", .list [])]
    let steps : List Step := [.call (.createEnvironment (.text "a") (.int 1) (.text "/a")),
      .call (.createEnvironment (.text "b") (.int 2) (.text "/b")),
      .call (.createEnvironment (.text "c") (.int 0) (.text "/c")),
      .call (.applyBlock (payload "a" 4 7 [(200, 2), (9, 1), (8, 3)] 1)),
      .call (.applyBlock (payload "b" 4 8 [(9, 1), (200, 4)] 1)),
      .call (.applyBlock (payload "c" 4 7 [(9, 1), (200, 2), (8, 3)] 2)),
      .call (.applyBlock (payload "b" 5 8 [] 1))]
    let s : Store := (Step.runAll {} steps).2.tables
    let refs : List Reference := [.name "c", .id 1, .name "b", .id 1]
    let refs' : List Reference := [.id 2, .name "a", .id 3, .id 3, .name "c"]
    (∃ report report', s.compareHeights refs (.int 4) = .ok report ∧
      s.compareHeights refs' (.int 4) = .ok report' ∧
      report.environments.map (·.id) = [3, 1, 2] ∧ report'.environments.map (·.id) = [2, 1, 3] ∧
      report.SameFindings report' ∧ report'.divergingKeys = [[8], [200]]) ∧
    s.compareHeights refs (.int 5) = .error (.missingBlocks 5 [1, 3]) ∧
    s.compareHeights refs' (.int 5) = .error (.missingBlocks 5 [1, 3]) := by
  intro payload steps s refs refs'
  have hs : s.Reachable := (Step.reachable_runAll (.new false) steps (by decide)).stores.1
  let a : Environment := ⟨1, "a", .interpreter, "/a", some 4⟩
  let b : Environment := ⟨2, "b", .wasm, "/b", some 5⟩
  let c : Environment := ⟨3, "c", .none, "/c", some 4⟩
  have hrefs : List.Forall₂ (fun ref row => s.resolve ref = .ok row) refs [c, a, b, a] :=
    .cons (by decide +kernel) (.cons (by decide +kernel) (.cons (by decide +kernel)
      (.cons (by decide +kernel) .nil)))
  have hrefs' : List.Forall₂ (fun ref row => s.resolve ref = .ok row) refs' [b, a, c, c, c] :=
    .cons (by decide +kernel) (.cons (by decide +kernel) (.cons (by decide +kernel)
      (.cons (by decide +kernel) (.cons (by decide +kernel) .nil))))
  have hforth : ∀ row ∈ [c, a, b, a], row ∈ [b, a, c, c, c] := by decide
  have hback : ∀ row ∈ [b, a, c, c, c], row ∈ [c, a, b, a] := by decide
  have hat := hs.sameOutcome_of_same_environments hrefs hrefs'
    fun row => ⟨hforth row, hback row⟩
  have hreport : (s.compareHeights refs (.int 4)).map (fun report =>
      (report.environments.map (·.id), report.divergingKeys)) = .ok ([3, 1, 2], [[8], [200]]) := by
    decide +kernel
  have horder : (s.compareHeights refs' (.int 4)).map (fun report =>
      report.environments.map (·.id)) = .ok [2, 1, 3] := by
    decide +kernel
  have hmissing : s.compareHeights refs (.int 5) = .error (.missingBlocks 5 [1, 3]) := by
    decide +kernel
  refine ⟨?_, hmissing, ?_⟩
  · obtain ⟨report, hreport, hfound⟩ := exists_of_map_eq_ok hreport
    obtain ⟨report', hreport', horder⟩ := exists_of_map_eq_ok horder
    obtain ⟨hids, hkeys⟩ := Prod.mk.inj hfound
    have halike := hat (.int 4)
    rw [hreport, hreport'] at halike
    cases halike with
    | reported hfindings =>
      exact ⟨report, report', hreport, hreport', hids, horder, hfindings,
        hfindings.keys.symm.trans hkeys⟩
  · have halike := hat (.int 5)
    rw [hmissing] at halike
    generalize s.compareHeights refs' (.int 5) = outcome at halike ⊢
    cases halike
    rfl

end Store

end ReplayLedger
