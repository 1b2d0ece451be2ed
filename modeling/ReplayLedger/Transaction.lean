import ReplayLedger.Ingestion

/-!
# Scopes of work

A database has tables to work on and remembers, for every scope of work that is open, how the tables
were when the scope was opened.  Ending a scope keeps what was done in it or undoes it.  Scopes
nest: what an inner scope has kept is undone with the outer one.  A database that is closed forgets
its open scopes with all that was done in them, and their ends then mean nothing; one that is kept
in memory forgets its tables too.

A *script* works on a database step by step, and a script that fails leaves behind what its steps
have done so far.  It is the scope around it that undoes this.  Operations that write more than once
are scripts: a block is recorded by advancing its environment and then inserting its row, and a
payload is applied part by part.
-/

namespace ReplayLedger

/-- Tables to work on, and the tables at the start of every open scope, the innermost scope
first. -/
structure Database where
  tables : Store := {}
  saved : List Store := []
  /-- Whether the tables outlive the closing of the database. -/
  persistent : Bool := false
  deriving DecidableEq, Repr, Inhabited

namespace Database

/-- Opens a scope. -/
def openScope (db : Database) : Database := { db with saved := db.tables :: db.saved }

/-- Ends the innermost scope and keeps what was done in it. -/
def commit (db : Database) : Database := { db with saved := db.saved.tail }

/-- Ends the innermost scope and undoes what was done in it. -/
def rollBack (db : Database) : Database :=
  match db.saved with
  | [] => db
  | tables :: saved => { db with tables, saved }

/-- Closes the database and opens it again. -/
def reopen (db : Database) : Database :=
  { db with tables := if db.persistent then db.saved.getLastD db.tables else {}, saved := [] }

/-- A scope that is committed at once leaves nothing behind. -/
@[simp] theorem commit_openScope (db : Database) : db.openScope.commit = db := rfl

/-- A scope that is undone at once leaves nothing behind. -/
@[simp] theorem rollBack_openScope (db : Database) : db.openScope.rollBack = db := rfl

/-- A database without open scopes that outlives its closing comes back as it was. -/
theorem reopen_of_persistent (db : Database) (h₁ : db.persistent = true) (h₂ : db.saved = []) :
    db.reopen = db := by
  cases db; simp_all [reopen]

end Database

/-- Work on a database, which leaves it changed whether it succeeds or fails. -/
structure Script (α : Type) where
  run : Database → Except Error α × Database

namespace Script

instance : Monad Script where
  pure a := ⟨fun db => (.ok a, db)⟩
  bind x next := ⟨fun db =>
    match x.run db with
    | (.ok a, db) => (next a).run db
    | (.error e, db) => (.error e, db)⟩

@[simp] theorem run_pure {α : Type} (a : α) (db : Database) :
    (pure a : Script α).run db = (.ok a, db) := rfl

/-- What follows a script that succeeds goes on with its result and its database. -/
theorem run_bind_of_ok {α β : Type} {x : Script α} {next : α → Script β} {db db' : Database} {a : α}
    (h : x.run db = (.ok a, db')) : (x >>= next).run db = (next a).run db' := by
  show (match x.run db with
    | (.ok a, db) => (next a).run db
    | (.error e, db) => (.error e, db)) = _
  rw [h]

/-- Nothing follows a script that fails. -/
theorem run_bind_of_error {α β : Type} {x : Script α} {next : α → Script β} {db db' : Database}
    {e : Error} (h : x.run db = (.error e, db')) : (x >>= next).run db = (.error e, db') := by
  show (match x.run db with
    | (.ok a, db) => (next a).run db
    | (.error e, db) => (.error e, db)) = _
  rw [h]

/-- Looks at the tables. -/
def look {α : Type} (f : Store → Except Error α) : Script α := ⟨fun db => (f db.tables, db)⟩

/-- Changes the tables by one operation, which changes nothing if it fails. -/
def change {α : Type} (f : Store → Except Error (α × Store)) : Script α := ⟨fun db =>
  match f db.tables with
  | .ok (a, tables) => (.ok a, { db with tables })
  | .error e => (.error e, db)⟩

/-- Runs a script in a scope of its own, and undoes it if it fails. -/
def scope {α : Type} (x : Script α) : Script α := ⟨fun db =>
  match x.run db.openScope with
  | (.ok a, db) => (.ok a, db.commit)
  | (.error e, db) => (.error e, db.rollBack)⟩

/-- Appends a block to an environment. -/
def recordBlock (environment : Int) (height indexHash trieRoot : Value) : Script Int := do
  let facts ← look fun _ => BlockFacts.ofValues height indexHash trieRoot
  scope do
    look fun s => s.checkBlock environment facts
    change fun s => return ((), ← s.advance environment facts.height)
    change fun s => s.insertBlock environment facts

/-- Applies a part of a payload that is a single write, in a scope of its own. -/
def applyPart {α : Type} (apply : Ingestion → α → Except Error Ingestion) (t : Ingestion)
    (part : α) : Script Ingestion :=
  scope <| change fun store => do
    let t ← apply { t with store } part
    return (t, t.store)

/-- Writes a variable.  If it is not declared yet, it is declared first, in a scope of its own: the
declaration is there when the write itself is refused. -/
def writeVariable (t : Ingestion) (write : VariableWrite) : Script Ingestion := do
  let execution ← look fun _ => t.writer write
  let (contract, t) ← look fun store => Ingestion.contract { t with store } write.contract
  let id ← scope <| change fun store => Ingestion.variableId { t with store } contract write.key
  let _ ← scope <| change fun store =>
    store.recordVariableInstance id t.block execution (.bytes write.value)
  look fun store => .ok { t with store }

/-- Writes a key of a map.  If the map is not declared yet, it is declared first, in a scope of its
own. -/
def writeMap (t : Ingestion) (write : MapWrite) : Script Ingestion := do
  let (contract, t) ← look fun store => Ingestion.contract { t with store } write.contract
  let id ← scope <| change fun store => Ingestion.mapId { t with store } contract write.name
  let _ ← scope <| change fun store =>
    store.putMapEntry id t.block (.bytes write.keyHash) (.bytes write.value)
  look fun store => .ok { t with store }

/-- Records a block and everything that was observed while producing it, in one scope. -/
def applyPayload (payload : BlockPayload) : Script Int := do
  let environment ← look fun s => s.resolve payload.environment
  scope do
    let block ← recordBlock environment.id (.int payload.height) (.bytes payload.indexHash)
      (.bytes payload.trieRoot)
    let t ← look fun store => .ok { store, environment, block : Ingestion }
    let t ← payload.entries.foldlM (applyPart Ingestion.writeEntry) t
    let t ← payload.contracts.foldlM (applyPart Ingestion.deploy) t
    let t ← payload.executions.foldlM (applyPart Ingestion.invoke) t
    let t ← payload.varWrites.foldlM writeVariable t
    let _ ← payload.mapWrites.foldlM writeMap t
    return block

/-- Checks a raw payload and applies it. -/
def applyBlock (payload : Value) : Script Int := do
  let payload ← look fun _ => BlockPayload.ofValue payload
  applyPayload payload

end Script

end ReplayLedger
