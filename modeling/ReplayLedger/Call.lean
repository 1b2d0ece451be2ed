import ReplayLedger.Store.Tables
import ReplayLedger.Transaction

/-!
# Calls, and calls under one transaction

A *call* is one operation of the store with its arguments.  `Call.run` says what it does to a store;
`Call.script` does it on a database, in scopes of work.

A *step* is a call, a look into the tables, a new opening of the database, or a group of steps.  A
transaction runs its steps one after the other in one scope; a step that fails undoes only itself,
and a transaction that is aborted undoes all of its steps.
-/

namespace ReplayLedger

/-- One operation of the store with its arguments. -/
inductive Call where
  | createEnvironment (name kind path : Value)
  | getEnvironment (id : Int)
  | getEnvironmentByName (name : String)
  | resolve (ref : Reference)
  | listEnvironments
  | dropEnvironment (id : Int)
  | recordBlock (environment : Int) (height indexHash trieRoot : Value)
  | getBlock (environment height : Int)
  | getBlockByHash (environment : Int) (indexHash : Value)
  | getBlockById (id : Int)
  | listBlocks (environment : Int) (start stop : Option Int)
  | latestHeight (environment : Int)
  | putEntry (block : Int) (keyHash value : Value)
  | getEntry (block : Int) (keyHash : Value)
  | listEntries (block : Int)
  | diffEntries (left right : Int)
  | registerContract (block : Int) (qualifiedId source : Value)
  | recordExecution (block contract : Int) (transactionId : Value)
  | getContract (qualifiedId : String) (environment : Int)
  | getContractById (id : Int)
  | listContracts (environment : Int)
  | listExecutions (block : Int)
  | declareVariable (contract : Int) (key : Value)
  | findVariable (contract : Int) (key : String)
  | getVariable (id : Int)
  | recordVariableInstance (varId block execution : Int) (value : Value)
  | latestVariableValue (varId : Int) (asOf : Value)
  | declareMap (contract : Int) (name : Value)
  | findMap (contract : Int) (name : String)
  | getMap (id : Int)
  | putMapEntry (mapId block : Int) (keyHash value : Value)
  | latestMapEntry (mapId : Int) (keyHash asOf : Value)
  | variableWritesAt (block : Int)
  | mapWritesAt (block : Int)
  | compareHeights (refs : List Reference) (height : Value)
  | applyBlock (payload : Value)
  deriving Inhabited, Repr

namespace Call

/-- The outcome of a write: the id of the new row. -/
def written (outcome : Except Error (Int × Store)) : Except Error (Json × Store) := do
  let (id, s) ← outcome
  return (.int id, s)

/-- The outcome of a read, which leaves the store as it is. -/
def looked {α : Type} (s : Store) (toJson : α → Json) (outcome : Except Error α) :
    Except Error (Json × Store) := do
  return (toJson (← outcome), s)

/-- Runs a call: its answer and the store afterwards, or an error. -/
def run (s : Store) : Call → Except Error (Json × Store)
  | createEnvironment name kind path => written (s.createEnvironment name kind path)
  | getEnvironment id => looked s Environment.toJson (s.getEnvironment id)
  | getEnvironmentByName name => looked s Environment.toJson (s.getEnvironmentByName name)
  | resolve ref => looked s Environment.toJson (s.resolve ref)
  | listEnvironments => .ok (.list Environment.toJson s.listEnvironments, s)
  | dropEnvironment id => do
    let (removed, rest) ← s.dropEnvironment id
    return (removed.toJson, rest)
  | recordBlock environment height indexHash trieRoot =>
    written (s.recordBlock environment height indexHash trieRoot)
  | getBlock environment height => looked s Block.toJson (s.getBlock environment height)
  | getBlockByHash environment indexHash =>
    looked s Block.toJson (s.getBlockByHash environment indexHash)
  | getBlockById id => looked s Block.toJson (s.getBlockById id)
  | listBlocks environment start stop =>
    looked s (.list Block.toJson) (s.listBlocks environment start stop)
  | latestHeight environment => looked s (.option .int) (s.latestHeight environment)
  | putEntry block keyHash value => written (s.putEntry block keyHash value)
  | getEntry block keyHash => looked s (.option .bytes) (s.getEntry block keyHash)
  | listEntries block =>
    looked s (.list fun (key, value) => .array [.bytes key, .bytes value]) (s.listEntries block)
  | diffEntries left right => looked s (.list EntryDiff.toJson) (s.diffEntries left right)
  | registerContract block qualifiedId source =>
    written (s.registerContract block qualifiedId source)
  | recordExecution block contract transactionId =>
    written (s.recordExecution block contract transactionId)
  | getContract qualifiedId environment =>
    looked s Contract.toJson (s.getContract qualifiedId environment)
  | getContractById id => looked s Contract.toJson (s.getContractById id)
  | listContracts environment => looked s (.list Contract.toJson) (s.listContracts environment)
  | listExecutions block => looked s (.list Execution.toJson) (s.listExecutions block)
  | declareVariable contract key => written (s.declareVariable contract key)
  | findVariable contract key => looked s (.option .int) (s.findVariable contract key)
  | getVariable id => looked s Variable.toJson (s.getVariable id)
  | recordVariableInstance varId block execution value =>
    written (s.recordVariableInstance varId block execution value)
  | latestVariableValue varId asOf =>
    looked s (.option VariableInstance.toJson) (s.latestVariableValue varId asOf)
  | declareMap contract name => written (s.declareMap contract name)
  | findMap contract name => looked s (.option .int) (s.findMap contract name)
  | getMap id => looked s ContractMap.toJson (s.getMap id)
  | putMapEntry mapId block keyHash value => written (s.putMapEntry mapId block keyHash value)
  | latestMapEntry mapId keyHash asOf =>
    looked s (.option MapEntry.toJson) (s.latestMapEntry mapId keyHash asOf)
  | variableWritesAt block =>
    looked s (.list fun (slot, value) => .array [.text slot.qualifiedId, .text slot.key, .bytes value])
      (s.variableWritesAt block)
  | mapWritesAt block =>
    looked s (.list fun (slot, value) =>
      .array [.text slot.qualifiedId, .text slot.name, .bytes slot.keyHash, .bytes value])
      (s.mapWritesAt block)
  | compareHeights refs height => looked s Report.toFullJson (s.compareHeights refs height)
  | applyBlock payload => written (s.applyBlock payload)

/-- Runs a call on a database. -/
def script : Call → Script Json
  | recordBlock environment height indexHash trieRoot =>
    Json.int <$> Script.recordBlock environment height indexHash trieRoot
  | applyBlock payload => Json.int <$> Script.applyBlock payload
  | c => .scope (.change fun s => c.run s)

end Call

/-- A call, a look into the tables, a new opening of the database, or a group of steps. -/
inductive Step where
  | call (c : Call)
  | rowCounts
  | tables
  | describe (table : DescribedTable) (id : Int)
  | overwriteMaxHeight (environment : Int) (height : Option Int)
  /-- Closes the database and opens it again. -/
  | reopen
  /-- Steps under one transaction, which may be aborted at the end. -/
  | transaction (steps : List Step) (abort : Bool)
  /-- Steps while the writer lock of an environment is held. -/
  | writing (environment : Int) (steps : List Step)
  deriving Inhabited, Repr

/-- What a step answers. -/
inductive Answer where
  | value (j : Json)
  | failure (e : Error)
  | transaction (committed : Bool) (answers : List Answer)
  | group (answers : List Answer)
  deriving Inhabited, Repr

namespace Step

/-- The answer of a script, and the database afterwards. -/
def settle : Except Error Json × Database → Answer × Database
  | (.ok j, db) => (.value j, db)
  | (.error e, db) => (.failure e, db)

mutual

/-- Runs a step. -/
def run (db : Database) : Step → Answer × Database
  | call c => settle (c.script.run db)
  | rowCounts => (.value db.tables.rowCounts.toJson, db)
  | tables => (.value db.tables.tablesJson, db)
  | describe table id => settle ((Json.text <$> Script.look fun s => s.describe table id).run db)
  | overwriteMaxHeight environment height =>
    settle ((Script.change fun s => return (.null, ← s.overwriteMaxHeight environment height)).run db)
  | reopen => (.value .null, db.reopen)
  | transaction steps abort =>
    let (answers, db) := runAll db.openScope steps
    (.transaction (!abort) answers, if abort then db.rollBack else db.commit)
  | writing _ steps =>
    let (answers, db) := runAll db steps
    (.group answers, db)

/-- Runs steps one after the other. -/
def runAll (db : Database) : List Step → List Answer × Database
  | [] => ([], db)
  | step :: rest =>
    let (answer, db) := run db step
    let (answers, db) := runAll db rest
    (answer :: answers, db)

end

end Step

end ReplayLedger
