import ReplayLedger.Proofs.Scopes

/-!
# Failing calls and transactions

A call that fails leaves no trace: the database is as it was, so all that is done later is answered
as if the call had not been made.  For most calls a single write is undone.  A payload may have
written many rows, and declared names for them, before a part is refused; what its inner scopes have
kept is undone with the scope around them.

A transaction is transparent or void: its steps answer what they would answer without it, and it
leaves what they would leave, or nothing if it is aborted.  The reason is that steps work on the
tables alone (`Database.OnTables`): which scopes are open does not matter to them, and they leave the
open scopes as they were (`Step.onTables_run`).  Only closing the database is different, since it
ends all scopes.
-/

namespace ReplayLedger

/-! ## Calls that fail -/

/-- A call that fails leaves the database as it was, with the ids that it gives next, and whatever is
done later is answered as if the call had not been made. -/
theorem Call.no_trace_of_failure {c : Call} {db : Database} {e : Error}
    (h : (c.script.run db).1 = .error e) :
    (c.script.run db).2 = db ∧ ∀ later : List Step, Step.runAll db (.call c :: later) =
      (.failure e :: (Step.runAll db later).1, (Step.runAll db later).2) := by
  have hrun : c.script.run db = (.error e, db) := by
    rcases c.script_cases db with ⟨answer, tables, -, hscript⟩ | ⟨e', -, hscript⟩
    · rw [hscript] at h
      cases h
    · rw [hscript] at h
      rw [hscript, Except.error.inj h]
  refine ⟨by rw [hrun], fun later => ?_⟩
  simp only [Step.runAll, Step.run, hrun, Step.settle]

/-- Payloads that fail at each of their parts: the schema, the environment, the height, the range of
heights, the second entry, a deployment, an invocation, a variable, and a map that was declared just
before. -/
theorem Call.no_trace_of_refused_payloads :
    let payload (height : Int) (parts : List (String × Value)) : Call :=
      .applyBlock (.record ([("environment", .text "a"), ("height", .int height),
        ("index_hash", .bytes [height.toNat.toUInt8]), ("trie_root_hash", .bytes [2])] ++ parts))
    let entry : Value := .record [("key_hash", .bytes [3]), ("value", .bytes [])]
    let contract (name : String) : Value :=
      .record [("qualified_id", .text name), ("source", .bytes [])]
    let execution (name : String) : Value := .record [("contract", .text name), ("tx_id", .bytes [5])]
    let write (tx : UInt8) : Value := .record [("contract", .text "d"), ("key", .text "k"),
      ("tx_id", .bytes [tx]), ("value", .bytes [6])]
    let map (key : Bytes) : Value := .record [("contract", .text "d"), ("name", .text "m"),
      ("key_hash", .bytes key), ("value", .bytes [8])]
    let written : List (String × Value) := [("entries", .list [entry]),
      ("contracts", .list [contract "d"]), ("executions", .list [execution "c", execution "d"])]
    let db : Database := (Step.runAll {}
      [.call (.createEnvironment (.text "a") (.int 1) (.text "/a")),
        .call (payload 4 [("contracts", .list [contract "c"])])]).2
    let refused : List (Call × ErrorKind) :=
      [(payload 5 [("entries", .list [.record []])], .badPayload),
        (.applyBlock (.record [("environment", .text "b"), ("height", .int 5),
          ("index_hash", .bytes [1]), ("trie_root_hash", .bytes [2])]), .notFound),
        (payload 4 written, .heightOutOfOrder),
        (payload 0x8000000000000000 written, .overflow),
        (payload 5 [("entries", .list [entry, entry])], .conflict),
        (payload 5 [("entries", .list [entry]), ("contracts", .list [contract "d", contract "c"])],
          .duplicateContract),
        (payload 5 [("entries", .list [entry]), ("executions", .list [execution "d"])],
          .unknownReference),
        (payload 5 (written ++ [("variables", .list [write 5, write 7])]), .unknownReference),
        (payload 5 (written ++ [("variables", .list [write 5]), ("maps", .list [map []])]),
          .validation)]
    ∀ x ∈ refused, ∃ e, e.kind = x.2 ∧ (x.1.script.run db).1 = .error e ∧
      (x.1.script.run db).2 = db := by
  intro payload entry contract execution write map written db refused x hx
  have hkinds : ∀ x ∈ refused, (match (x.1.script.run db).1 with
      | .ok _ => none
      | .error e => some e.kind) = some x.2 := by decide +kernel
  have hkind := hkinds x hx
  cases hrun : (x.1.script.run db).1 with
  | ok answer =>
    rw [hrun] at hkind
    cases hkind
  | error e =>
    rw [hrun] at hkind
    exact ⟨e, Option.some.inj hkind, rfl, (no_trace_of_failure hrun).1⟩

/-! ## Work on the tables alone -/

/-- A look is a change that leaves the tables as they are. -/
lemma Script.look_eq_change {α : Type} (f : Store → Except Error α) :
    look f = change (fun s => f s >>= fun a => pure (a, s)) := by
  apply ext_run
  intro db
  cases h : f db.tables with
  | ok a =>
    have hsame : (f db.tables >>= fun a => pure (a, db.tables)) = .ok (a, db.tables) := by
      rw [h]
      rfl
    rw [run_look h, run_change_of_ok hsame]
  | error e =>
    have hfail : (f db.tables >>= fun a => pure (a, db.tables)) = .error e := by
      rw [h]
      rfl
    rw [run_look h, run_change_of_error hfail]

namespace Database

variable {α β γ : Type}

/-- What is done depends on the tables alone and changes nothing else. -/
def OnTables (f : Database → α × Database) : Prop :=
  ∃ g : Store → α × Store, ∀ db, f db = ((g db.tables).1, { db with tables := (g db.tables).2 })

namespace OnTables

variable {f : Database → α × Database} {f' : Database → β × Database}

/-- What looks at the tables and leaves them as they are. -/
lemma look (g : Store → α) : OnTables fun db => (g db.tables, db) :=
  ⟨fun s => (g s, s), fun _ => rfl⟩

/-- One thing after the other. -/
lemma andThen (h : OnTables f) (h' : OnTables f') (k : α → β → γ) :
    OnTables fun db => (k (f db).1 (f' (f db).2).1, (f' (f db).2).2) := by
  obtain ⟨g, hg⟩ := h
  obtain ⟨g', hg'⟩ := h'
  refine ⟨fun s => (k (g s).1 (g' (g s).2).1, (g' (g s).2).2), fun db => ?_⟩
  simp only [hg, hg']

/-- What is made of an answer. -/
lemma map (h : OnTables f) (k : α → γ) : OnTables fun db => (k (f db).1, (f db).2) := by
  obtain ⟨g, hg⟩ := h
  refine ⟨fun s => (k (g s).1, (g s).2), fun db => ?_⟩
  simp only [hg]

/-- What is answered and then undone. -/
lemma undo (h : OnTables f) : OnTables fun db => ((f db).1, db) := by
  obtain ⟨g, hg⟩ := h
  simp only [hg]
  exact look fun s => (g s).1

/-- Work in a scope that is kept is the work without the scope. -/
lemma commit (h : OnTables f) (db : Database) :
    ((f db.openScope).1, (f db.openScope).2.commit) = f db := by
  obtain ⟨g, hg⟩ := h
  rw [hg, hg]
  rfl

/-- Work in a scope that is undone gives the same answer and leaves nothing. -/
lemma rollBack (h : OnTables f) (db : Database) :
    ((f db.openScope).1, (f db.openScope).2.rollBack) = ((f db).1, db) := by
  obtain ⟨g, hg⟩ := h
  rw [hg, hg]
  rfl

/-- A change of the tables. -/
lemma change (f : Store → Except Error (Json × Store)) :
    OnTables fun db => Step.settle ((Script.change f).run db) := by
  refine ⟨fun s => match f s with
    | .ok (j, s') => (.value j, s')
    | .error e => (.failure e, s), fun db => ?_⟩
  cases h : f db.tables with
  | ok r => simp only [Script.run_change_of_ok h, h, Step.settle]
  | error e => simp only [Script.run_change_of_error h, h, Step.settle]

end OnTables

end Database

/-! ## Steps and transactions -/

namespace Step

open Database

mutual

/-- A step that does not close the database. -/
def keepsOpen : Step → Bool
  | .reopen => false
  | .transaction steps _ => keepOpen steps
  | .writing _ steps => keepOpen steps
  | _ => true

/-- Steps that do not close the database. -/
def keepOpen : List Step → Bool
  | [] => true
  | step :: rest => step.keepsOpen && keepOpen rest

end

/-- A transaction that is kept does what its steps do without it. -/
lemma run_transaction_kept {steps : List Step} (h : OnTables fun db => runAll db steps)
    (db : Database) :
    run db (.transaction steps false) =
      (.transaction true (runAll db steps).1, (runAll db steps).2) :=
  congrArg (Prod.map (Answer.transaction true) id) (h.commit db)

/-- A transaction that is aborted answers what its steps do without it, and leaves nothing. -/
lemma run_transaction_aborted {steps : List Step} (h : OnTables fun db => runAll db steps)
    (db : Database) :
    run db (.transaction steps true) = (.transaction false (runAll db steps).1, db) :=
  congrArg (Prod.map (Answer.transaction false) id) (h.rollBack db)

mutual

/-- A step that does not close the database works on the tables alone. -/
lemma onTables_run : ∀ step : Step, step.keepsOpen → OnTables fun db => step.run db
  | .call c, _ => by
    simp only [Step.run, c.script_eq_change]
    exact .change _
  | .rowCounts, _ => by
    simp only [Step.run]
    exact .look fun s => Answer.value s.rowCounts.toJson
  | .tables, _ => by
    simp only [Step.run]
    exact .look fun s => Answer.value s.tablesJson
  | .describe table id, _ => by
    simp only [Step.run, Script.look_eq_change, Script.map_change]
    exact .change _
  | .overwriteMaxHeight environment height, _ => by
    simp only [Step.run]
    exact .change _
  | .reopen, h => by simp [keepsOpen] at h
  -- an aborted scope undoes its steps, a committed one leaves them
  | .transaction steps abort, h => by
    have hsteps := onTables_runAll steps h
    cases abort with
    | true =>
      simp only [run_transaction_aborted hsteps]
      exact hsteps.undo.map _
    | false =>
      simp only [run_transaction_kept hsteps]
      exact hsteps.map _
  | .writing _ steps, h => by
    simp only [Step.run]
    exact (onTables_runAll steps h).map Answer.group

/-- Steps that do not close the database work on the tables alone. -/
lemma onTables_runAll : ∀ steps : List Step, keepOpen steps → OnTables fun db => runAll db steps
  | [], _ => .look fun _ => []
  | step :: rest, h => by
    obtain ⟨hstep, hrest⟩ : step.keepsOpen = true ∧ keepOpen rest = true := by
      simpa [keepOpen] using h
    simp only [runAll]
    exact (onTables_run step hstep).andThen (onTables_runAll rest hrest) (· :: ·)

end

/-- The steps of a transaction answer what they answer without it.  If it is kept, it leaves the
database that they leave without it; if it is aborted, it leaves the database as it was, whatever
its steps have kept or undone. -/
theorem transaction_transparent_or_void (db : Database) (steps : List Step) (h : keepOpen steps) :
    run db (.transaction steps false) = (.transaction true (runAll db steps).1, (runAll db steps).2) ∧
      run db (.transaction steps true) = (.transaction false (runAll db steps).1, db) := by
  have hsteps := onTables_runAll steps h
  exact ⟨run_transaction_kept hsteps db, run_transaction_aborted hsteps db⟩

/-- A transaction with a payload that is refused, a transaction that is aborted around one that is
kept, a drop in one that is kept around one that is aborted, and a name that is taken. -/
theorem transaction_transparent_or_void_of_nested :
    let payload (height : Int) : Step := .call (.applyBlock (.record [("environment", .text "a"),
      ("height", .int height), ("index_hash", .bytes [height.toNat.toUInt8]),
      ("trie_root_hash", .bytes [2]),
      ("contracts", .list [.record [("qualified_id", .text "c"), ("source", .bytes [])]])]))
    let create (name : String) : Step :=
      .call (.createEnvironment (.text name) (.int 1) (.text "/x"))
    let db : Database := (runAll {} [create "a", payload 4]).2
    let steps : List Step :=
      [payload 5, create "b", .transaction [create "c", .transaction [create "d"] false] true,
        .transaction [.call (.dropEnvironment 1), create "e", .transaction [create "f"] true] false,
        create "b"]
    keepOpen steps ∧
      run db (.transaction steps false) =
        (.transaction true (runAll db steps).1, (runAll db steps).2) ∧
      (runAll db steps).2.tables.environments.map (·.name) = ["b", "e"] ∧
      run db (.transaction steps true) = (.transaction false (runAll db steps).1, db) ∧
      db.tables.environments.map (·.name) = ["a"] := by
  intro payload create db steps
  have hopen : keepOpen steps := by decide
  obtain ⟨hkept, haborted⟩ := transaction_transparent_or_void db steps hopen
  exact ⟨hopen, hkept, by decide +kernel, haborted, by decide +kernel⟩

end Step

end ReplayLedger
