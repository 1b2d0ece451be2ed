import ReplayLedger.Call
import Mathlib.Tactic.Lemma

/-!
# Scopes of work are all or nothing

A script that runs in a scope of its own either does what one operation on the tables does, or
leaves the database as it was: `scope x` is `change f` as soon as `x`, whenever it succeeds, ends
with the tables that `f` gives, and, when it fails, has closed all scopes that it opened.  How far
a failing script has come does not matter.

The main statement is `Call.script_eq_change`: on a database, every call does to the tables exactly
what `Call.run` does to a store.  So everything that is said below about stores holds for databases,
inside scopes and outside of them.
-/

namespace ReplayLedger

namespace Script

variable {α β : Type}

/-- Run on a database, a script comes to a result: it succeeds with the value and the tables of the
result, or it fails with its error and leaves the open scopes as they were. -/
def ComesTo (x : Script α) (db : Database) : Except Error (α × Store) → Prop
  | .ok (a, tables) => x.run db = (.ok a, { db with tables })
  | .error e => ∃ tables, x.run db = (.error e, { db with tables })

/-- Two scripts are the same if they run alike on every database. -/
lemma ext_run {x y : Script α} (h : ∀ db, x.run db = y.run db) : x = y := by
  cases x
  cases y
  congr
  exact funext h

/-- A look gives what there is to see. -/
lemma run_look {f : Store → Except Error α} {db : Database} {r : Except Error α}
    (h : f db.tables = r) : (look f).run db = (r, db) := by
  simp only [look, h]

/-- A look at the tables leaves them as they are. -/
lemma comesTo_look (f : Store → Except Error α) (db : Database) :
    (look f).ComesTo db (do return (← f db.tables, db.tables)) := by
  cases h : f db.tables with
  | ok a => exact run_look h
  | error e => exact ⟨db.tables, run_look h⟩

/-- A change that succeeds sets the tables. -/
lemma run_change_of_ok {f : Store → Except Error (α × Store)} {db : Database} {a : α}
    {tables : Store} (h : f db.tables = .ok (a, tables)) :
    (change f).run db = (.ok a, { db with tables }) := by
  simp only [change, h]

/-- A change that fails leaves the database as it was. -/
lemma run_change_of_error {f : Store → Except Error (α × Store)} {db : Database} {e : Error}
    (h : f db.tables = .error e) : (change f).run db = (.error e, db) := by
  simp only [change, h]

/-- A change of the tables comes to what the operation gives. -/
lemma comesTo_change (f : Store → Except Error (α × Store)) (db : Database) :
    (change f).ComesTo db (f db.tables) := by
  cases h : f db.tables with
  | ok r => exact run_change_of_ok h
  | error e => exact ⟨db.tables, run_change_of_error h⟩

/-- One script after the other comes to one result after the other. -/
lemma ComesTo.bind {x : Script α} {k : α → Script β} {db : Database}
    {r : Except Error (α × Store)} {g : α → Store → Except Error (β × Store)} (hx : x.ComesTo db r)
    (hk : ∀ a tables, r = .ok (a, tables) →
      (k a).ComesTo { db with tables } (g a tables)) :
    (x >>= k).ComesTo db (r >>= fun (a, tables) => g a tables) := by
  cases r with
  | error e =>
    obtain ⟨tables, hrun⟩ := hx
    exact ⟨tables, run_bind_of_error hrun⟩
  | ok r =>
    obtain ⟨a, tables⟩ := r
    have hrest := hk a tables rfl
    show (x >>= k).ComesTo db (g a tables)
    have hrun : (x >>= k).run db = (k a).run { db with tables } := run_bind_of_ok hx
    cases h : g a tables with
    | ok r' =>
      rw [h] at hrest
      exact hrun.trans hrest
    | error e =>
      rw [h] at hrest
      obtain ⟨tables', hrest⟩ := hrest
      exact ⟨tables', hrun.trans hrest⟩

/-- In a scope of its own, a script that comes to the result of an operation is that operation:
ending the scope keeps all of it or nothing. -/
lemma scope_eq_change {x : Script α} {f : Store → Except Error (α × Store)}
    (h : ∀ db, x.ComesTo db (f db.tables)) : scope x = change f := by
  apply ext_run
  intro db
  have hx : x.ComesTo db.openScope (f db.tables) := h db.openScope
  unfold scope change
  cases hf : f db.tables with
  | ok r =>
    obtain ⟨a, tables⟩ := r
    rw [hf] at hx
    have hrun : x.run db.openScope = (.ok a, { db.openScope with tables }) := hx
    simp only [hrun, hf]
    rfl
  | error e =>
    rw [hf] at hx
    obtain ⟨tables, hrun⟩ := hx
    simp only [hrun, hf]
    rfl

/-- A scope around a single change adds nothing. -/
lemma scope_change (f : Store → Except Error (α × Store)) : scope (change f) = change f :=
  scope_eq_change (comesTo_change f)

/-- A look in front of a change is part of the change. -/
lemma look_bind_change (f : Store → Except Error α) (g : α → Store → Except Error (β × Store)) :
    (look f >>= fun a => change (g a)) = change (fun s => f s >>= fun a => g a s) := by
  apply ext_run
  intro db
  cases h : f db.tables with
  | ok a =>
    rw [run_bind_of_ok (run_look h)]
    simp [change, h, bind, Except.bind]
  | error e =>
    rw [run_bind_of_error (run_look h)]
    simp [change, h, bind, Except.bind]

/-- What is made of the value of a change is part of the change. -/
lemma map_change (k : α → β) (f : Store → Except Error (α × Store)) :
    k <$> change f = change (fun s => f s >>= fun (a, s) => pure (k a, s)) := by
  apply ext_run
  intro db
  show (change f >>= fun a => pure (k a)).run db = _
  cases h : f db.tables with
  | ok r =>
    obtain ⟨a, tables⟩ := r
    rw [run_bind_of_ok (run_change_of_ok h)]
    simp [change, h, bind, Except.bind, pure, Except.pure]
  | error e =>
    rw [run_bind_of_error (run_change_of_error h)]
    simp [change, h, bind, Except.bind]

/-! ## Recording a block -/

/-- A block is recorded as a whole or not at all. -/
lemma recordBlock_eq_change (environment : Int) (height indexHash trieRoot : Value) :
    recordBlock environment height indexHash trieRoot =
      change (fun s => s.recordBlock environment height indexHash trieRoot) := by
  unfold recordBlock
  have hscope : ∀ facts : BlockFacts,
      scope (do
        look fun s => s.checkBlock environment facts
        change fun s => return ((), ← s.advance environment facts.height)
        change fun s => s.insertBlock environment facts) =
      change (fun s => do
        s.checkBlock environment facts
        let s ← s.advance environment facts.height
        s.insertBlock environment facts) := by
    intro facts
    apply scope_eq_change
    intro db
    have hadvance (tables : Store) : ComesTo (do
        change fun s => return ((), ← s.advance environment facts.height)
        change fun s => s.insertBlock environment facts) { db with tables } _ :=
      (comesTo_change (fun s => do return ((), ← s.advance environment facts.height))
        { db with tables }).bind fun _ tables' _ => comesTo_change _ { db with tables := tables' }
    have h := (comesTo_look (fun s => s.checkBlock environment facts) db).bind
      fun _ tables _ => hadvance tables
    simpa using h
  simp only [hscope, look_bind_change]
  rfl

/-! ## Applying a payload -/

/-- A script for the parts of one kind follows an operation: it comes to what the operation gives,
with the tables that this carries. -/
def Follows {γ : Type} (script : Ingestion → γ → Script Ingestion)
    (apply : Ingestion → γ → Except Error Ingestion) : Prop :=
  ∀ (t : Ingestion) (part : γ) (db : Database), t.store = db.tables →
    (script t part).ComesTo db (apply t part >>= fun t => pure (t, t.store))

/-- A part that is a single write is applied as one change. -/
lemma follows_applyPart {γ : Type} (apply : Ingestion → γ → Except Error Ingestion) :
    Follows (applyPart apply) apply := by
  intro t part db h
  have hchange := comesTo_change (fun store => do
    let t ← apply { t with store } part
    return (t, t.store)) db
  simp only [← h] at hchange
  unfold applyPart
  rw [scope_change]
  exact hchange

/-- What follows a look goes on with what there was to see. -/
lemma comesTo_look_bind {f : Store → Except Error α} {next : α → Script β} {db : Database}
    {r : Except Error α} {g : α → Except Error (β × Store)} (h : f db.tables = r)
    (hnext : ∀ a, r = .ok a → (next a).ComesTo db (g a)) :
    (look f >>= next).ComesTo db (r >>= g) := by
  cases r with
  | error e => exact ⟨db.tables, run_bind_of_error (run_look h)⟩
  | ok a =>
    have hrun : (look f >>= next).run db = (next a).run db := run_bind_of_ok (run_look h)
    have ha := hnext a rfl
    show (look f >>= next).ComesTo db (g a)
    cases hg : g a with
    | ok r =>
      rw [hg] at ha
      exact hrun.trans ha
    | error e =>
      rw [hg] at ha
      obtain ⟨tables, ha⟩ := ha
      exact ⟨tables, hrun.trans ha⟩

/-- What is written under a name goes on with the tables that the declaration of the name has left.
If the write is refused, the declaration is still there. -/
lemma comesTo_declare_bind {t : Ingestion} {db : Database} (h : t.store = db.tables)
    (declare : Ingestion → Except Error (Int × Store))
    (write : Int → Store → Except Error (Int × Store)) :
    ComesTo (do
      let id ← change fun store => declare { t with store }
      let _ ← change (write id)
      look fun store => .ok { t with store }) db (do
      let (id, store) ← declare t
      let (_, store) ← write id store
      return ({ t with store }, store)) := by
  have hwrite (id : Int) (tables : Store) : ComesTo (do
      let _ ← change (write id)
      look fun store => .ok { t with store }) { db with tables } _ :=
    (comesTo_change (write id) { db with tables }).bind fun _ tables' _ =>
      comesTo_look (fun store => .ok { t with store }) { db with tables := tables' }
  have hdeclare := comesTo_change (fun store => declare { t with store }) db
  simp only [← h] at hdeclare
  exact hdeclare.bind fun id tables _ => hwrite id tables

/-- A variable is declared, if need be, and then written, each as one change. -/
lemma follows_writeVariable : Follows writeVariable Ingestion.writeVariable := by
  intro t write db h
  unfold writeVariable Ingestion.writeVariable
  simp only [scope_change, bind_assoc]
  refine comesTo_look_bind rfl fun execution _ => ?_
  refine comesTo_look_bind (by rw [← h]) fun r hr => ?_
  obtain ⟨contract, t'⟩ := r
  have hstore : t'.store = db.tables := (Ingestion.store_of_contract hr).trans h
  simpa using comesTo_declare_bind hstore (fun t => t.variableId contract write.key)
    (fun id store => store.recordVariableInstance id t'.block execution (.bytes write.value))

/-- A map is declared, if need be, and then written, each as one change. -/
lemma follows_writeMap : Follows writeMap Ingestion.writeMap := by
  intro t write db h
  unfold writeMap Ingestion.writeMap
  simp only [scope_change, bind_assoc]
  refine comesTo_look_bind (by rw [← h]) fun r hr => ?_
  obtain ⟨contract, t'⟩ := r
  have hstore : t'.store = db.tables := (Ingestion.store_of_contract hr).trans h
  simpa using comesTo_declare_bind hstore (fun t => t.mapId contract write.name)
    (fun id store => store.putMapEntry id t'.block (.bytes write.keyHash) (.bytes write.value))

/-- The parts of a payload are applied one after the other, each to the tables that the parts before
it have left. -/
lemma Follows.foldlM {γ : Type} {script : Ingestion → γ → Script Ingestion}
    {apply : Ingestion → γ → Except Error Ingestion} (hpart : Follows script apply)
    (parts : List γ) (t : Ingestion) (db : Database) (h : t.store = db.tables) :
    (parts.foldlM script t).ComesTo db (parts.foldlM apply t >>= fun t => pure (t, t.store)) := by
  induction parts generalizing t db with
  | nil =>
    show ((pure t : Script Ingestion).run db) = (.ok t, { db with tables := t.store })
    rw [h]
    rfl
  | cons part rest ih =>
    have hrest : ∀ t' tables, (apply t part >>= fun t => pure (t, t.store)) = .ok (t', tables) →
        (rest.foldlM script t').ComesTo { db with tables }
          (rest.foldlM apply t' >>= fun t => pure (t, t.store)) := by
      intro t' tables hok
      apply ih
      obtain ⟨t'', -, hpair⟩ := bind_eq_ok.1 hok
      obtain ⟨rfl, rfl⟩ := Prod.mk.inj (Except.ok.inj hpair)
      rfl
    have hall := (hpart t part db h).bind
      (g := fun t _ => rest.foldlM apply t >>= fun t => pure (t, t.store)) hrest
    rw [List.foldlM_cons, List.foldlM_cons]
    simpa using hall

/-- What follows the parts of one kind goes on with the tables that they have left. -/
lemma Follows.foldlM_bind {γ : Type} {script : Ingestion → γ → Script Ingestion}
    {apply : Ingestion → γ → Except Error Ingestion} (hpart : Follows script apply)
    {parts : List γ} {t : Ingestion} {db : Database} {next : Ingestion → Script β}
    {g : Ingestion → Except Error (β × Store)} (h : t.store = db.tables)
    (hnext : ∀ t, (next t).ComesTo { db with tables := t.store } (g t)) :
    (parts.foldlM script t >>= next).ComesTo db (parts.foldlM apply t >>= g) := by
  have hrest : ∀ t' tables, (parts.foldlM apply t >>= fun t => pure (t, t.store)) =
      .ok (t', tables) → (next t').ComesTo { db with tables } (g t') := by
    intro t' tables hok
    obtain ⟨t'', -, hpair⟩ := bind_eq_ok.1 hok
    obtain ⟨rfl, rfl⟩ := Prod.mk.inj (Except.ok.inj hpair)
    exact hnext t''
  simpa using (hpart.foldlM parts t db h).bind (k := next) (g := fun t _ => g t) hrest

/-- A payload is applied as a whole or not at all. -/
lemma applyPayload_eq_change (payload : BlockPayload) :
    applyPayload payload = change (fun s => s.applyPayload payload) := by
  unfold applyPayload
  have hscope : ∀ environment : Environment,
      scope (do
        let block ← recordBlock environment.id (.int payload.height) (.bytes payload.indexHash)
          (.bytes payload.trieRoot)
        let t ← look fun store => .ok { store, environment, block : Ingestion }
        let t ← payload.entries.foldlM (applyPart Ingestion.writeEntry) t
        let t ← payload.contracts.foldlM (applyPart Ingestion.deploy) t
        let t ← payload.executions.foldlM (applyPart Ingestion.invoke) t
        let t ← payload.varWrites.foldlM writeVariable t
        let _ ← payload.mapWrites.foldlM writeMap t
        return block) =
      change (fun s => do
        let recorded ← s.recordBlock environment.id (.int payload.height)
          (.bytes payload.indexHash) (.bytes payload.trieRoot)
        let t : Ingestion := { store := recorded.2, environment, block := recorded.1 }
        let t ← payload.entries.foldlM Ingestion.writeEntry t
        let t ← payload.contracts.foldlM Ingestion.deploy t
        let t ← payload.executions.foldlM Ingestion.invoke t
        let t ← payload.varWrites.foldlM Ingestion.writeVariable t
        let t ← payload.mapWrites.foldlM Ingestion.writeMap t
        return (recorded.1, t.store)) := by
    intro environment
    apply scope_eq_change
    intro db
    rw [recordBlock_eq_change]
    let parts (block : Int) (t : Ingestion) : Except Error (Int × Store) := do
      let t ← payload.entries.foldlM Ingestion.writeEntry t
      let t ← payload.contracts.foldlM Ingestion.deploy t
      let t ← payload.executions.foldlM Ingestion.invoke t
      let t ← payload.varWrites.foldlM Ingestion.writeVariable t
      let t ← payload.mapWrites.foldlM Ingestion.writeMap t
      return (block, t.store)
    refine (comesTo_change _ db).bind
      (g := fun block store => parts block { store, environment, block }) fun block tables _ => ?_
    refine (comesTo_look (fun store => .ok { store, environment, block : Ingestion })
      { db with tables }).bind (g := fun t _ => parts block t) fun t tables' ht => ?_
    obtain ⟨rfl, rfl⟩ : { store := tables, environment, block : Ingestion } = t ∧ tables = tables' := by
      simpa [pure, Except.pure] using ht
    refine (follows_applyPart Ingestion.writeEntry).foldlM_bind rfl fun t => ?_
    refine (follows_applyPart Ingestion.deploy).foldlM_bind rfl fun t => ?_
    refine (follows_applyPart Ingestion.invoke).foldlM_bind rfl fun t => ?_
    refine follows_writeVariable.foldlM_bind rfl fun t => ?_
    refine follows_writeMap.foldlM_bind rfl fun t => ?_
    rfl
  simp only [hscope, look_bind_change]
  rfl

/-- A raw payload is applied as a whole or not at all. -/
lemma applyBlock_eq_change (payload : Value) :
    applyBlock payload = change (fun s => s.applyBlock payload) := by
  unfold applyBlock
  simp only [applyPayload_eq_change, look_bind_change]
  rfl

end Script

/-- On a database, a call does to the tables what it does to a store; if it fails, the database is
as it was. -/
theorem Call.script_eq_change (c : Call) : c.script = .change (fun s => c.run s) := by
  cases c with
  | recordBlock environment height indexHash trieRoot =>
    simp only [Call.script, Script.recordBlock_eq_change, Script.map_change]
    rfl
  | applyBlock payload =>
    simp only [Call.script, Script.applyBlock_eq_change, Script.map_change]
    rfl
  | _ => simp only [Call.script, Script.scope_change]

/-- On a database, a call that is accepted sets the tables, and one that is refused changes nothing. -/
lemma Call.script_cases (c : Call) (db : Database) :
    (∃ answer tables, c.run db.tables = .ok (answer, tables) ∧
      c.script.run db = (.ok answer, { db with tables })) ∨
    ∃ e, c.run db.tables = .error e ∧ c.script.run db = (.error e, db) := by
  rw [c.script_eq_change]
  cases hrun : c.run db.tables with
  | ok r => exact .inl ⟨r.1, r.2, rfl, Script.run_change_of_ok hrun⟩
  | error e => exact .inr ⟨e, rfl, Script.run_change_of_error hrun⟩

/-! ## Reachable stores and databases -/

/-- The stores that calls lead to, starting with the empty one. -/
inductive Store.Reachable : Store → Prop
  | empty : Store.empty.Reachable
  | call {s s' : Store} {answer : Json} (c : Call) :
    s.Reachable → c.run s = .ok (answer, s') → s'.Reachable

/-- The databases that calls lead to, successful or failing, at top level or in scopes that are
kept or undone, starting with a new database. -/
inductive Database.Reachable : Database → Prop
  | new (persistent : Bool) : Database.Reachable { persistent }
  | call {db : Database} (c : Call) : db.Reachable → (c.script.run db).2.Reachable
  | openScope {db : Database} : db.Reachable → db.openScope.Reachable
  | commit {db : Database} : db.Reachable → db.commit.Reachable
  | rollBack {db : Database} : db.Reachable → db.rollBack.Reachable
  | reopen {db : Database} : db.Reachable → db.reopen.Reachable

namespace Database

/-- The tables of a database, and those it would go back to, are reachable stores. -/
lemma Reachable.stores {db : Database} (h : db.Reachable) :
    db.tables.Reachable ∧ ∀ s ∈ db.saved, s.Reachable := by
  induction h with
  | new persistent => exact ⟨.empty, by simp⟩
  | @call db c _ ih =>
    rcases c.script_cases db with ⟨answer, tables, hrun, hscript⟩ | ⟨e, -, hscript⟩
    · rw [hscript]
      exact ⟨.call c ih.1 hrun, ih.2⟩
    · rw [hscript]
      exact ih
  | openScope _ ih =>
    refine ⟨ih.1, ?_⟩
    intro s hs
    rcases List.mem_cons.1 hs with rfl | hs
    · exact ih.1
    · exact ih.2 s hs
  | commit _ ih => exact ⟨ih.1, fun s hs => ih.2 s (List.mem_of_mem_tail hs)⟩
  | @rollBack db _ ih =>
    unfold Database.rollBack
    cases hsaved : db.saved with
    | nil => exact ih
    | cons tables saved =>
      rw [hsaved] at ih
      exact ⟨ih.2 tables List.mem_cons_self, fun s hs => ih.2 s (List.mem_cons_of_mem _ hs)⟩
  | @reopen db _ ih =>
    refine ⟨?_, by simp [Database.reopen]⟩
    unfold Database.reopen
    by_cases hp : db.persistent
    · rw [if_pos hp]
      have hlast : db.saved.getLastD db.tables ∈ db.tables :: db.saved := List.getLastD_mem_cons
      rcases List.mem_cons.1 hlast with htables | hsaved
      · rw [htables]
        exact ih.1
      · exact ih.2 _ hsaved
    · rw [if_neg hp]
      exact .empty

end Database

mutual

/-- A step that does no damage to the tables behind the back of the store. -/
def Step.isHarmless : Step → Bool
  | .overwriteMaxHeight _ _ => false
  | .transaction steps _ => areHarmless steps
  | .writing _ steps => areHarmless steps
  | _ => true

/-- Steps that do no damage to the tables behind the back of the store. -/
def Step.areHarmless : List Step → Bool
  | [] => true
  | step :: rest => step.isHarmless && areHarmless rest

end

/-- An answer is given about the database that a script leaves. -/
lemma Step.snd_settle (r : Except Error Json × Database) : (Step.settle r).2 = r.2 := by
  obtain ⟨answer, db⟩ := r
  cases answer <;> rfl

/-- A step that is a call runs the script of the call. -/
lemma Step.snd_run_call (db : Database) (c : Call) :
    (Step.run db (.call c)).2 = (c.script.run db).2 := by
  rw [Step.run, Step.snd_settle]

/-- A row is described without changing anything. -/
lemma Step.snd_run_describe (db : Database) (table : DescribedTable) (id : Int) :
    (Step.run db (.describe table id)).2 = db := by
  rw [Step.run, Step.snd_settle]
  show ((Script.look (fun s => s.describe table id) >>= fun a => pure (Json.text a)).run db).2 = db
  cases hlook : db.tables.describe table id with
  | ok a =>
    rw [Script.run_bind_of_ok (Script.run_look hlook)]
    rfl
  | error e => rw [Script.run_bind_of_error (Script.run_look hlook)]

mutual

/-- A harmless step leads from reachable databases to reachable ones. -/
lemma Step.reachable_run {db : Database} (h : db.Reachable) :
    ∀ step : Step, step.isHarmless → (step.run db).2.Reachable
  | .call c, _ => by
    rw [Step.snd_run_call]
    exact h.call c
  | .rowCounts, _ => h
  | .tables, _ => h
  | .describe table id, _ => by
    rw [Step.snd_run_describe]
    exact h
  | .overwriteMaxHeight _ _, hs => by simp [Step.isHarmless] at hs
  | .reopen, _ => h.reopen
  | .transaction steps abort, hs => by
    have hsteps := Step.reachable_runAll h.openScope steps hs
    unfold Step.run
    cases abort with
    | true => exact hsteps.rollBack
    | false => exact hsteps.commit
  | .writing _ steps, hs => Step.reachable_runAll h steps hs

/-- Harmless steps lead from reachable databases to reachable ones. -/
lemma Step.reachable_runAll {db : Database} (h : db.Reachable) :
    ∀ steps : List Step, Step.areHarmless steps → (Step.runAll db steps).2.Reachable
  | [], _ => h
  | step :: rest, hs => by
    obtain ⟨hstep, hrest⟩ : step.isHarmless = true ∧ Step.areHarmless rest = true := by
      simpa [Step.areHarmless] using hs
    exact Step.reachable_runAll (Step.reachable_run h step hstep) rest hrest

end

end ReplayLedger
