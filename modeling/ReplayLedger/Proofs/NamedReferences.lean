import ReplayLedger.Proofs.Refusals
import ReplayLedger.Proofs.Removal

/-!
# Environments as they are named on a command line

A command line names an environment by one word, and the word alone decides how it is read: a row of
digits is an id, anything else is a name.  A name can be any text that is not blank, so it can be a
row of digits too, and then its environment cannot be reached by it: the word leads to the
environment with that id, if there is one (`digits_lead_elsewhere`).

All commands read the word in the same way, so what they do is told once for a word and the
reference that it is read as (`Command.ActsOn`): they do to the environment that the reference
stands for what the store does when it is asked for that environment, and nothing to any other one.

Main statement: `Store.Reachable.arguments_act`.
-/

namespace ReplayLedger

open Store

/-- A word that is not made of digits only is a name. -/
lemma Reference.ofArgument_of_name {word : String} (h : ¬ Text.IsDigits word) :
    ofArgument word = .ok (.name word) := by
  rw [ofArgument, if_neg h]

/-- A row of digits is the id that it is read as. -/
lemma Reference.ofArgument_of_digits {word : String} {n : Int} (h : Text.IsDigits word)
    (hread : Quantity.integer word = .ok n) : ofArgument word = .ok (.id n) := by
  rw [ofArgument, if_pos h, hread]
  rfl

/-- Lists that are related item by item have a partner for every item. -/
lemma exists_mem_of_forall₂ {α β : Type} {R : α → β → Prop} {items : List α} {partners : List β}
    (h : List.Forall₂ R items partners) {a : α} (ha : a ∈ items) : ∃ b ∈ partners, R a b := by
  induction h with
  | nil => cases ha
  | cons hfirst _ ih =>
    rcases List.mem_cons.1 ha with rfl | ha
    · exact ⟨_, List.mem_cons_self, hfirst⟩
    · obtain ⟨b, hb, hrelated⟩ := ih ha
      exact ⟨b, List.mem_cons_of_mem _ hb, hrelated⟩

namespace Command

/-- What the store answers when it is asked to compare a reference with those that words are read
as. -/
def comparedAmong (s : Store) (before : List String) (reference : Reference) (after : List String)
    (height : Int) : Except Error Report := do
  let earlier ← before.mapM Reference.ofArgument
  let later ← after.mapM Reference.ofArgument
  s.compareHeights (earlier ++ reference :: later) (.int height)

/-- The commands that are given a word act on one environment, and on no other one, just as the
store does when it is asked for the environment that a reference stands for. -/
structure ActsOn (s : Store) (word : String) (reference : Reference) (row : Environment) :
    Prop where
  resolves : s.resolve reference = .ok row
  /-- The environment is shown. -/
  shows (place : String) (input : List String) :
    run place input s (.showEnvironment word) = (.success (row.toJson.indented ++ "\n"), s)
  /-- The environment is dropped, if that is confirmed, with all it owns and nothing else. -/
  drops : ∃ removed rest, s.dropEnvironment row.id = .ok (removed, rest) ∧
    s.LosesOwned row.id removed rest ∧ ∀ place input confirmed,
      run place input s (.dropEnvironment word confirmed) = asked confirmed row input s
        (.success ("Dropped environment '" ++ row.name ++ "' (" ++ Numeral.ofInt removed.total
          ++ " rows)\n"), rest)
  /-- Its blocks are listed, and no others, if the bounds can be asked for. -/
  lists (place : String) (input : List String) (start stop : Option Int) :
    match s.listBlocks row.id start stop with
    | .ok rows =>
      run place input s (.listBlocks word start stop) =
          (.success (String.join (rows.map blockLine)), s) ∧
        ∀ block ∈ rows, block ∈ s.blocks ∧ block.environmentId = row.id
    | .error e => run place input s (.listBlocks word start stop) = (.failure e, s)
  /-- Among other words, it is compared as the reference is.  What comes of it is shown, and nothing
  changes. -/
  compares (place : String) (input before after : List String) (height : Int) (asDocument : Bool) :
    run place input s (.compare (before ++ word :: after) height asDocument) =
      match comparedAmong s before reference after height with
      | .ok report => (compared report asDocument, s)
      | .error e => (notCompared e, s)
  /-- A report is on this environment, with its block at the height, among those of the other
  words. -/
  reports {before after : List String} {height : Int} {report : Report} :
    comparedAmong s before reference after height = .ok report →
      row ∈ report.environments ∧
        ∃ block, s.getBlock row.id height = .ok block ∧ (row.id, block) ∈ report.blocks

section Acts

variable {s : Store} {word : String} {reference : Reference} {row : Environment}

/-- A word is resolved as the reference that it is read as. -/
lemma resolveArgument_eq (hread : Reference.ofArgument word = .ok reference) :
    s.resolveArgument word = s.resolve reference := by
  rw [resolveArgument, hread]
  rfl

/-- A question is answered before anything is done. -/
lemma run_drop_eq {removed : RowCounts} {rest : Store} (hword : s.resolveArgument word = .ok row)
    (hdrop : s.dropEnvironment row.id = .ok (removed, rest)) (place : String) (input : List String)
    (confirmed : Bool) :
    run place input s (.dropEnvironment word confirmed) = asked confirmed row input s
      (.success ("Dropped environment '" ++ row.name ++ "' (" ++ Numeral.ofInt removed.total
        ++ " rows)\n"), rest) := by
  simp only [run, attempt, hword, drop, hdrop]

/-- Words are read one by one, so a word that is read as a reference stands for it among others. -/
lemma compareArguments_eq (hread : Reference.ofArgument word = .ok reference)
    (before after : List String) (height : Int) :
    compareArguments s (before ++ word :: after) height =
      comparedAmong s before reference after height := by
  simp only [compareArguments, comparedAmong, List.mapM_append, List.mapM_cons, hread, ok_bind,
    bind_assoc, pure_bind]

/-- A comparison leaves the store as it is. -/
lemma run_compare_eq (hread : Reference.ofArgument word = .ok reference) (place : String)
    (input before after : List String) (height : Int) (asDocument : Bool) :
    run place input s (.compare (before ++ word :: after) height asDocument) =
      match comparedAmong s before reference after height with
      | .ok report => (compared report asDocument, s)
      | .error e => (notCompared e, s) := by
  rw [← compareArguments_eq hread]
  rfl

/-- A report is on the height that was asked for. -/
lemma height_of_compareHeights {refs : List Reference} {height : Int} {report : Report}
    (h : s.compareHeights refs (.int height) = .ok report) : report.height = height := by
  simp only [compareHeights, bind_eq_ok, pure_eq_ok, Argument.height_eq_ok] at h
  obtain ⟨n, ⟨hn, -⟩, -, -, -, -, -, -, rfl⟩ := h
  exact (Option.some.inj hn).symm

/-- The commands act on the environment that their word stands for. -/
lemma actsOn (hs : s.Consistent) (hrow : row ∈ s.environments)
    (hread : Reference.ofArgument word = .ok reference) (hdenotes : reference.Denotes row) :
    ActsOn s word reference row := by
  have hresolve : s.resolve reference = .ok row := hs.resolve_eq_ok_iff.2 ⟨hrow, hdenotes⟩
  have hword : s.resolveArgument word = .ok row := (resolveArgument_eq hread).trans hresolve
  have owned := hs.environment?_eq_some.2 ⟨hrow, rfl⟩
  have hdrop := dropEnvironment_eq owned
  refine ⟨hresolve, fun place input => ?_,
    ⟨_, _, hdrop, hs.losesOwned owned, run_drop_eq hword hdrop⟩, fun place input start stop => ?_,
    run_compare_eq hread, @fun _ _ _ _ h => ?_⟩
  · simp only [run, attempt, hword]
  · have hrun : run place input s (.listBlocks word start stop) =
        attempt s (s.listBlocks row.id start stop) fun rows =>
          (.success (String.join (rows.map blockLine)), s) := by
      simp only [run, attempt, hword]
    cases hlisted : s.listBlocks row.id start stop with
    | error e => rw [hrun, hlisted, attempt]
    | ok rows =>
      refine ⟨by rw [hrun, hlisted, attempt], fun block hblock => ?_⟩
      simp only [Store.listBlocks, bind_eq_ok, pure_eq_ok] at hlisted
      obtain ⟨-, -, -, -, -, -, rfl⟩ := hlisted
      have hmem := List.mem_filter.1 (List.mem_mergeSort.1 hblock)
      exact ⟨hmem.1, (of_decide_eq_true hmem.2).1⟩
  · simp only [comparedAmong, bind_eq_ok] at h
    obtain ⟨earlier, -, later, -, hreport⟩ := h
    rw [← height_of_compareHeights hreport]
    obtain ⟨rows, hrows, hblocks, hreported⟩ := hs.report_of_compareHeights hreport
    -- the word is one of those that were resolved, so its environment is one of those compared
    obtain ⟨resolved, hmem, hresolved⟩ := exists_mem_of_forall₂ hrows (a := reference) (by simp)
    obtain rfl : row = resolved := Except.ok.inj (hresolve.symm.trans hresolved)
    have hcompared := List.mem_eraseDups.2 hmem
    rw [congrArg Report.environments hreported, congrArg Report.blocks hreported]
    exact ⟨hcompared, _, hblocks row hcompared, List.mem_map_of_mem hcompared⟩

end Acts

end Command

namespace Store

/-- A name that is not a row of digits leads to the environment that has it, and a row of digits,
even if it is the name of an environment, to the environment that has the id it is read as. -/
theorem Reachable.arguments_act {s : Store} (hs : s.Reachable) {row : Environment}
    (hrow : row ∈ s.environments) :
    (¬ Text.IsDigits row.name → Command.ActsOn s row.name (.name row.name) row) ∧
      ∀ word, Text.IsDigits word → Quantity.integer word = .ok row.id →
        Command.ActsOn s word (.id row.id) row :=
  ⟨fun hname => Command.actsOn hs.consistent hrow (Reference.ofArgument_of_name hname) rfl,
    fun _ hdigits hread =>
      Command.actsOn hs.consistent hrow (Reference.ofArgument_of_digits hdigits hread) rfl⟩

/-- An environment with a name that starts with a digit, beside one whose name is its id: it is
reached by its name, and by its id in the digits of another script. -/
theorem arguments_act_beside_digits :
    let steps : List Step := [.call (.createEnvironment (.text "2") (.int 1) (.text "/2")),
      .call (.createEnvironment (.text "2b") (.int 2) (.text "/b"))]
    let s : Store := (Step.runAll {} steps).2.tables
    let row : Environment := ⟨2, "2b", .wasm, "/b", none⟩
    row ∈ s.environments ∧ ¬ Text.IsDigits row.name ∧ Command.ActsOn s "2b" (.name "2b") row ∧
      Text.IsDigits "٢" ∧ Command.ActsOn s "٢" (.id 2) row := by
  intro steps s row
  have hs : s.Reachable := (Step.reachable_runAll (.new false) steps (by decide)).stores.1
  have hrow : row ∈ s.environments := by decide +kernel
  have hname : ¬ Text.IsDigits row.name := by decide
  have hdigits : Text.IsDigits "٢" := by decide
  obtain ⟨hnamed, hnumbered⟩ := hs.arguments_act hrow
  exact ⟨hrow, hname, hnamed hname, hdigits, hnumbered "٢" hdigits (by decide +kernel)⟩

/-- The environment that is named `2` has the id 1, and its name leads to another one, which has the
id 2: that one is shown, and that one is dropped. -/
theorem digits_lead_elsewhere :
    let steps : List Step := [.call (.createEnvironment (.text "2") (.int 1) (.text "/2")),
      .call (.createEnvironment (.text "b") (.int 2) (.text "/b"))]
    let s : Store := (Step.runAll {} steps).2.tables
    let named : Environment := ⟨1, "2", .interpreter, "/2", none⟩
    let other : Environment := ⟨2, "b", .wasm, "/b", none⟩
    s.Reachable ∧ s.resolve (.name "2") = .ok named ∧
      Command.run "" [] s (.showEnvironment "2") = (.success (other.toJson.indented ++ "\n"), s) ∧
      Command.run "" [] s (.dropEnvironment "2" true) =
        (.success "Dropped environment 'b' (1 rows)\n", { environments := [named] }) ∧
      ¬ Command.ActsOn s "2" (.name "2") named := by
  intro steps s named other
  have hs : s.Reachable := (Step.reachable_runAll (.new false) steps (by decide)).stores.1
  have hshown : Command.run "" [] s (.showEnvironment "2") =
      (.success (other.toJson.indented ++ "\n"), s) := by decide +kernel
  refine ⟨hs, by decide +kernel, hshown, by decide +kernel, fun hacts => ?_⟩
  have hexpected := (hacts.shows "" []).symm.trans hshown
  have hdiffers : named.toJson.indented ++ "\n" ≠ other.toJson.indented ++ "\n" := by decide +kernel
  exact hdiffers (congrArg (·.1.stdout) hexpected)

end Store

end ReplayLedger
