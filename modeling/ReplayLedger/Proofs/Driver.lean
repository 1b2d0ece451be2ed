import ReplayLedger.Proofs.Ingestion
import ReplayLedger.Proofs.Transactions

/-!
# Payloads call by call

What a payload brings can also be put into the store by separate calls: one that records the block,
then one for every part, with look-ups in between for the ids that the later calls need.
`Script.driveBlock` does so.  It has no scope around it, so what the calls before a refused one have
done stays, and it carries no ids along: each time it asks the store as it is then.

A payload on its way into the store answers such questions from the ids that it has met so far.
`Tracks` says that these are right, so both come to the same id or to none, and the tables are the
same after every part.  In the end a payload is accepted as a whole exactly if all of the calls are,
and then it leaves the same tables and the same block (`Database.Reachable.apply_iff_drive`).
-/

namespace ReplayLedger

open Store

/-! ## Calls with answers -/

/-- A call together with the answer that it gives, before it is written out: to ask is to make the
call. -/
structure Request (α : Type) where
  call : Call
  toJson : α → Json
  ask : Script α
  answers : call.script = toJson <$> ask

namespace Request

/-- A call that adds a row. -/
def write (call : Call) (add : Store → Except Error (Int × Store))
    (h : ∀ s, call.run s = Call.written (add s)) : Request Int where
  call := call
  toJson := .int
  ask := .change add
  answers := by
    rw [Call.script_eq_change, Script.map_change]
    exact congrArg Script.change (funext h)

/-- A call that reads. -/
def read {α : Type} (call : Call) (toJson : α → Json) (find : Store → Except Error α)
    (h : ∀ s, call.run s = Call.looked s toJson (find s)) : Request α where
  call := call
  toJson := toJson
  ask := .look find
  answers := by
    rw [Call.script_eq_change, Script.look_eq_change, Script.map_change]
    refine congrArg Script.change (funext fun s => ?_)
    rw [h, Call.looked, bind_assoc]
    rfl

/-- Asks for the environment that a reference stands for. -/
def resolve (ref : Reference) : Request Environment :=
  read (.resolve ref) Environment.toJson (·.resolve ref) fun _ => rfl

/-- Records a block, for its id. -/
def recordBlock (environment : Int) (height indexHash trieRoot : Value) : Request Int :=
  write (.recordBlock environment height indexHash trieRoot)
    (·.recordBlock environment height indexHash trieRoot) fun _ => rfl

/-- Puts a trie leaf at a block, for the id of its row. -/
def putEntry (block : Int) (keyHash value : Value) : Request Int :=
  write (.putEntry block keyHash value) (·.putEntry block keyHash value) fun _ => rfl

/-- Registers a contract at a block, for its id. -/
def registerContract (block : Int) (qualifiedId source : Value) : Request Int :=
  write (.registerContract block qualifiedId source)
    (·.registerContract block qualifiedId source) fun _ => rfl

/-- Asks for the contract of an environment with an identifier. -/
def getContract (qualifiedId : String) (environment : Int) : Request Contract :=
  read (.getContract qualifiedId environment) Contract.toJson
    (·.getContract qualifiedId environment) fun _ => rfl

/-- Records that a contract was executed at a block, for the id of the execution. -/
def recordExecution (block contract : Int) (transactionId : Value) : Request Int :=
  write (.recordExecution block contract transactionId)
    (·.recordExecution block contract transactionId) fun _ => rfl

/-- Asks for the executions at a block. -/
def listExecutions (block : Int) : Request (List Execution) :=
  read (.listExecutions block) (.list Execution.toJson) (·.listExecutions block) fun _ => rfl

/-- Asks for the id of a variable, which need not be declared. -/
def findVariable (contract : Int) (key : String) : Request (Option Int) :=
  read (.findVariable contract key) (.option .int) (·.findVariable contract key) fun _ => rfl

/-- Declares a variable, for its id. -/
def declareVariable (contract : Int) (key : Value) : Request Int :=
  write (.declareVariable contract key) (·.declareVariable contract key) fun _ => rfl

/-- Records a value of a variable, for the id of its row. -/
def recordVariableInstance (varId block execution : Int) (value : Value) : Request Int :=
  write (.recordVariableInstance varId block execution value)
    (·.recordVariableInstance varId block execution value) fun _ => rfl

/-- Asks for the id of a map, which need not be declared. -/
def findMap (contract : Int) (name : String) : Request (Option Int) :=
  read (.findMap contract name) (.option .int) (·.findMap contract name) fun _ => rfl

/-- Declares a map, for its id. -/
def declareMap (contract : Int) (name : Value) : Request Int :=
  write (.declareMap contract name) (·.declareMap contract name) fun _ => rfl

/-- Puts an entry of a map, for the id of its row. -/
def putMapEntry (mapId block : Int) (keyHash value : Value) : Request Int :=
  write (.putMapEntry mapId block keyHash value) (·.putMapEntry mapId block keyHash value)
    fun _ => rfl

/-- To ask for a contract leaves the database as it is. -/
lemma run_getContract {qualifiedId : String} {environment : Int} {r : Except Error Contract}
    (db : Database) (h : db.tables.getContract qualifiedId environment = r) :
    (getContract qualifiedId environment).ask.run db = (r, db) :=
  Script.run_look (f := (·.getContract qualifiedId environment)) h

/-- To ask for the executions at a block leaves the database as it is. -/
lemma run_listExecutions {block : Int} {r : Except Error (List Execution)} (db : Database)
    (h : db.tables.listExecutions block = r) : (listExecutions block).ask.run db = (r, db) :=
  Script.run_look (f := (·.listExecutions block)) h

end Request

/-! ## A payload in separate calls -/

namespace Script

/-- The id that is found, or else that of a new declaration. -/
def findOr (find : Script (Option Int)) (declare : Script Int) : Script Int := do
  match ← find with
  | some id => return id
  | none => declare

/-- Puts a trie leaf. -/
def driveEntry (block : Int) (write : EntryWrite) : Script Unit := do
  let _ ← (Request.putEntry block (.bytes write.keyHash) (.bytes write.value)).ask
  return ()

/-- Registers a contract. -/
def driveDeployment (block : Int) (deployment : Deployment) : Script Unit := do
  let _ ← (Request.registerContract block (.text deployment.qualifiedId)
    (.bytes deployment.source)).ask
  return ()

/-- Looks up the contract that is invoked and records the execution. -/
def driveInvocation (environment block : Int) (invocation : Invocation) : Script Unit := do
  let contract ← (Request.getContract invocation.contract environment).ask
  let _ ← (Request.recordExecution block contract.id (.bytes invocation.transactionId)).ask
  return ()

/-- Looks up the contract of a variable and, in the list of the executions at the block, the one
that writes the variable. -/
def lookUpWriter (environment block : Int) (write : VariableWrite) :
    Script (Contract × Execution) := do
  let contract ← (Request.getContract write.contract environment).ask
  let executions ← (Request.listExecutions block).ask
  let execution ← look fun _ => require
    (executions.find? fun row =>
      row.contractId = contract.id ∧ row.transactionId = write.transactionId)
    (.writerNotExecuted write.key write.contract write.transactionId)
  return (contract, execution)

/-- Finds a variable, or else declares it, and records its value. -/
def driveVariable (environment block : Int) (write : VariableWrite) : Script Unit := do
  let (contract, execution) ← lookUpWriter environment block write
  let id ← findOr (Request.findVariable contract.id write.key).ask
    (Request.declareVariable contract.id (.text write.key)).ask
  let _ ← (Request.recordVariableInstance id block execution.id (.bytes write.value)).ask
  return ()

/-- Finds a map, or else declares it, and puts an entry. -/
def driveMap (environment block : Int) (write : MapWrite) : Script Unit := do
  let contract ← (Request.getContract write.contract environment).ask
  let id ← findOr (Request.findMap contract.id write.name).ask
    (Request.declareMap contract.id (.text write.name)).ask
  let _ ← (Request.putMapEntry id block (.bytes write.keyHash) (.bytes write.value)).ask
  return ()

/-- Puts a payload into the store by one call after the other.  The first call that is refused is
the last one that is made. -/
def driveBlock (payload : BlockPayload) : Script Int := do
  let environment ← (Request.resolve payload.environment).ask
  let block ← (Request.recordBlock environment.id (.int payload.height) (.bytes payload.indexHash)
    (.bytes payload.trieRoot)).ask
  payload.entries.forM (driveEntry block)
  payload.contracts.forM (driveDeployment block)
  payload.executions.forM (driveInvocation environment.id block)
  payload.varWrites.forM (driveVariable environment.id block)
  payload.mapWrites.forM (driveMap environment.id block)
  return block

end Script

/-! ## Two runs side by side -/

/-- A computation and a script both succeed, with results that belong together, or both fail. -/
inductive Matches {α β : Type} (R : α → β → Database → Prop) :
    Except Error α → Except Error β × Database → Prop
  | ok {a : α} {b : β} {db : Database} : R a b db → Matches R (.ok a) (.ok b, db)
  | error {e e' : Error} {db : Database} : Matches R (.error e) (.error e', db)

namespace Matches

variable {α β α' β' γ : Type} {R : α → β → Database → Prop} {Q : α' → β' → Database → Prop}

/-- What matches part by part matches. -/
lemma bind {x : Except Error α} {y : Script β} {db : Database} {f : α → Except Error α'}
    {g : β → Script β'} (h : Matches R x (y.run db))
    (hnext : ∀ a b db', R a b db' → Matches Q (f a) ((g b).run db')) :
    Matches Q (x >>= f) ((y >>= g).run db) := by
  generalize hrun : y.run db = outcome at h
  cases h with
  | ok hab =>
    rw [Script.run_bind_of_ok hrun]
    exact hnext _ _ _ hab
  | error =>
    rw [Script.run_bind_of_error hrun]
    exact .error

/-- What follows for the results. -/
lemma mono {x : Except Error α} {outcome : Except Error β × Database}
    {R' : α → β → Database → Prop} (h : Matches R x outcome)
    (hresult : ∀ a b db, x = .ok a → R a b db → R' a b db) : Matches R' x outcome := by
  cases h with
  | ok hab => exact .ok (hresult _ _ _ rfl hab)
  | error => exact .error

/-- A relation that every part keeps is kept by all of them. -/
lemma forM {apply : α → γ → Except Error α} {drive : γ → Script Unit} {R : α → Database → Prop}
    (hpart : ∀ a db part, R a db → Matches (fun a _ => R a) (apply a part) ((drive part).run db))
    (parts : List γ) : ∀ {a : α} {db : Database}, R a db →
      Matches (fun a _ => R a) (parts.foldlM apply a) ((parts.forM drive).run db) := by
  induction parts with
  | nil => exact fun h => .ok h
  | cons part rest ih =>
    intro a db h
    rw [List.foldlM_cons]
    exact (hpart a db part h).bind fun a' _ db' h' => ih h'

/-- A change matches the operation that it makes. -/
lemma of_change (f : Store → Except Error (α × Store)) (db : Database) :
    Matches (fun r a db' => a = r.1 ∧ db' = { db with tables := r.2 }) (f db.tables)
      ((Script.change f).run db) := by
  cases hf : f db.tables with
  | ok r =>
    rw [Script.run_change_of_ok hf]
    exact .ok ⟨rfl, rfl⟩
  | error e =>
    rw [Script.run_change_of_error hf]
    exact .error

/-- A look gives what there is to see. -/
lemma of_look (f : Store → Except Error α) (db : Database) :
    Matches (fun a b db' => b = a ∧ db' = db) (f db.tables) ((Script.look f).run db) := by
  rw [Script.run_look rfl]
  cases f db.tables with
  | ok a => exact .ok ⟨rfl, rfl⟩
  | error e => exact .error

/-- To find an id, or else to declare it, is to look and then perhaps to change. -/
lemma findOr (find : Store → Except Error (Option Int))
    (declare : Store → Except Error (Int × Store)) (db : Database) :
    Matches (fun r id db' => id = r.1 ∧ db' = { db with tables := r.2 })
      (find db.tables >>= fun
        | some id => pure (id, db.tables)
        | none => declare db.tables)
      ((Script.findOr (.look find) (.change declare)).run db) := by
  refine (of_look find db).bind ?_
  rintro _ found _ ⟨rfl, rfl⟩
  cases found with
  | some id => exact .ok ⟨rfl, rfl⟩
  | none => exact .of_change declare _

/-- A change and a script that matches it succeed alike. -/
lemma run_change_iff {f : Store → Except Error (α × Store)} {db db' : Database}
    {outcome : Except Error α × Database}
    (h : Matches (fun r a db' => a = r.1 ∧ db' = { db with tables := r.2 }) (f db.tables) outcome)
    (a : α) : (Script.change f).run db = (.ok a, db') ↔ outcome = (.ok a, db') := by
  generalize hf : f db.tables = r at h
  cases h with
  | ok hsame =>
    obtain ⟨rfl, rfl⟩ := hsame
    rw [Script.run_change_of_ok hf]
  | error =>
    rw [Script.run_change_of_error hf]
    simp

end Matches

/-! ## What is asked is what was carried along -/

namespace Tracks

variable {s : Store} {environment height : Int} {t : Ingestion} {history : History}

/-- The environment of a payload is still there. -/
lemma owned (h : Tracks s environment height t history) :
    ∃ owner, t.store.environment? environment = some owner := by
  obtain ⟨home, hhome, rfl, -⟩ := place?_eq_some.1 h.place
  obtain ⟨owner, howner, hid⟩ := h.grows.consistent.links.blocks home (mem_of_block? hhome).1
  exact ⟨owner, h.grows.consistent.environment?_eq_some.2 ⟨howner, hid⟩⟩

/-- A contract that was named, or is named now, is the one that the store gives when it is asked. -/
lemma getContract_cases (h : Tracks s environment height t history) (qualifiedId : String) :
    (∃ row contracts, t.store.getContract qualifiedId environment = .ok row ∧
      t.contract qualifiedId = .ok (row.id, { t with contracts }) ∧
      t.store.contractName? row.id = some (environment, qualifiedId)) ∨
    (∃ e e', t.store.getContract qualifiedId environment = .error e ∧
      t.contract qualifiedId = .error e' ∧ qualifiedId ∉ history.contractNames) := by
  obtain ⟨owner, owned⟩ := h.owned
  have hagrees := h.contract_agrees qualifiedId
  by_cases hknown : qualifiedId ∈ history.contractNames
  · rw [demand, if_pos hknown] at hagrees
    obtain ⟨⟨id, _⟩, hcontract, -, -, hname, contracts, rfl⟩ := hagrees.of_ok
    obtain ⟨row, hrow, rfl⟩ := h.grows.consistent.getContract_of_contractName? owned hname
    exact .inl ⟨row, contracts, hrow, hcontract, hname⟩
  · have hfree : t.store.contractNamed? environment qualifiedId = none := by
      rw [h.grows.consistent.contractNamed?_eq_none, h.grows.own]
      exact hknown
    rw [demand, if_neg hknown] at hagrees
    obtain ⟨e, he⟩ := hagrees.of_refused
    refine .inr ⟨.noContractNamed qualifiedId environment, e, ?_, he, hknown⟩
    rw [getContract_eq owned, hfree]
    rfl

/-- The execution of an invocation at the block is the one that was logged for the payload. -/
lemma executionOf?_eq (h : Tracks s environment height t history) {contract : Int}
    {qualifiedId : String}
    (hname : t.store.contractName? contract = some (environment, qualifiedId))
    (transactionId : Bytes) :
    (t.store.executionOf? t.block contract transactionId).map (·.id) =
      Association.get? (qualifiedId, transactionId) t.executions := by
  have hs := h.grows.consistent
  cases hlogged : Association.get? (qualifiedId, transactionId) t.executions with
  | none =>
    have hnone : t.store.executionOf? t.block contract transactionId = none := by
      rw [hs.executionOf?_eq_none h.place hname, h.grows.own, h.logged, hlogged]
      simp
    rw [hnone, Option.map_none]
  | some id =>
    obtain ⟨writer, hwriter, hhere, htx, hinvoked⟩ := h.executions hlogged
    obtain ⟨hmem, rfl⟩ := mem_of_execution? hwriter
    have hcontract : writer.contractId = contract := (hs.contractName?_inj hname).1 hinvoked
    have hfound : t.store.executionOf? t.block contract transactionId = some writer :=
      (find?_eq_some_iff_key (k := (t.block, contract, transactionId)) hs.keys.executions
        (by simp)).2 ⟨hmem, by rw [hhere, hcontract, htx]⟩
    rw [hfound, Option.map_some]

end Tracks

/-- Among the executions at a block, one is found by its contract and its transaction. -/
lemma Store.find?_executions_at (s : Store) (block contract : Int) (transactionId : Bytes) :
    ((s.executions.filter fun row => row.blockId = block).find? fun row =>
      row.contractId = contract ∧ row.transactionId = transactionId) =
      s.executionOf? block contract transactionId := by
  simp [executionOf?, List.find?_filter]

/-! ## Part by part -/

/-- What a part of a payload and the calls for it have come to: the same tables, at one block. -/
def SameTables (db : Database) (block : Int) (t : Ingestion) (db' : Database) : Prop :=
  t.block = block ∧ db' = { db with tables := t.store }

/-- A payload on its way into a store, and a database in which the calls made so far have left the
same tables. -/
structure Driven (s : Store) (environment height block : Int) (db : Database) (t : Ingestion)
    (db' : Database) : Prop where
  tracks : ∃ history, Tracks s environment height t history
  same : SameTables db block t db'

namespace Driven

variable {s : Store} {environment height block : Int} {db db' : Database} {t : Ingestion}

/-- A part keeps track of the names, so only the tables are left to compare. -/
lemma keep {x : Except Error Ingestion} {y : Except ErrorKind History}
    {outcome : Except Error Unit × Database} (hagrees : Agrees (Tracks s environment height) x y)
    (hmatches : Matches (fun t _ => SameTables db block t) x outcome) :
    Matches (fun t _ => Driven s environment height block db t) x outcome := by
  refine hmatches.mono ?_
  rintro t' _ db' rfl hsame
  obtain ⟨history, -, htracks⟩ := hagrees.of_accepted
  exact ⟨⟨history, htracks⟩, hsame⟩

/-- The last write of a part leaves the tables that its call leaves. -/
lemma write_matches (add : Store → Except Error (Int × Store)) {t : Ingestion}
    (ht : t.block = block) (next : Int → Ingestion → Ingestion)
    (hnext : ∀ id t, (next id t).block = t.block ∧ (next id t).store = t.store) :
    Matches (fun t _ => SameTables db block t)
      (add t.store >>= fun (id, store) => pure (next id { t with store }))
      ((do
        let _ ← Script.change add
        return () : Script Unit).run { db with tables := t.store }) := by
  refine (Matches.of_change add { db with tables := t.store }).bind ?_
  rintro ⟨id, store⟩ _ _ ⟨-, rfl⟩
  obtain ⟨hblock, hstore⟩ := hnext id { t with store }
  exact .ok ⟨hblock.trans ht, by rw [hstore]⟩

/-- An entry comes to the same either way. -/
lemma entry (h : Driven s environment height block db t db') (write : EntryWrite) :
    Matches (fun t _ => Driven s environment height block db t) (t.writeEntry write)
      ((Script.driveEntry block write).run db') := by
  obtain ⟨⟨history, htracks⟩, rfl, rfl⟩ := h
  refine keep (htracks.writeEntry_agrees write) ?_
  exact write_matches (·.putEntry t.block (.bytes write.keyHash) (.bytes write.value)) rfl
    (fun _ t => t) fun _ _ => ⟨rfl, rfl⟩

/-- A deployment comes to the same either way, and its contract is found by its name from then on.
-/
lemma deployment (h : Driven s environment height block db t db') (deployment : Deployment) :
    Matches (fun t _ => Driven s environment height block db t) (t.deploy deployment)
      ((Script.driveDeployment block deployment).run db') := by
  obtain ⟨⟨history, htracks⟩, rfl, rfl⟩ := h
  refine keep (htracks.deploy_agrees deployment) ?_
  exact write_matches
    (·.registerContract t.block (.text deployment.qualifiedId) (.bytes deployment.source)) rfl
    (fun id t => { t with contracts := Association.put deployment.qualifiedId id t.contracts })
    fun _ _ => ⟨rfl, rfl⟩

/-- To name a contract and to ask for it come to the same. -/
lemma contract_matches {history : History} (h : Tracks s environment height t history)
    (qualifiedId : String) :
    Matches (fun r row db' => (∃ contracts, r = (row.id, { t with contracts })) ∧
        db' = { db with tables := t.store })
      (t.contract qualifiedId)
      ((Request.getContract qualifiedId environment).ask.run { db with tables := t.store }) := by
  obtain ⟨row, contracts, hrow, hcontract, -⟩ | ⟨e, e', hrow, hcontract, -⟩ :=
    h.getContract_cases qualifiedId
  · rw [hcontract, Request.run_getContract { db with tables := t.store } hrow]
    exact .ok ⟨⟨contracts, rfl⟩, rfl⟩
  · rw [hcontract, Request.run_getContract { db with tables := t.store } hrow]
    exact .error

/-- An invocation comes to the same either way: the contract that is asked for is the one that was
met. -/
lemma invocation (h : Driven s environment height block db t db') (invocation : Invocation) :
    Matches (fun t _ => Driven s environment height block db t) (t.invoke invocation)
      ((Script.driveInvocation environment block invocation).run db') := by
  obtain ⟨⟨history, htracks⟩, rfl, rfl⟩ := h
  refine keep (htracks.invoke_agrees invocation) ?_
  refine (contract_matches htracks invocation.contract).bind ?_
  rintro _ row _ ⟨⟨contracts, rfl⟩, rfl⟩
  exact write_matches (·.recordExecution t.block row.id (.bytes invocation.transactionId))
    (t := { t with contracts }) rfl
    (fun id t => { t with
      executions :=
        Association.put (invocation.contract, invocation.transactionId) id t.executions })
    fun _ _ => ⟨rfl, rfl⟩

/-- A write by an invocation of the payload finds its execution in the list of those at the block,
and any other write does not. -/
lemma writer_matches {history : History} (h : Tracks s environment height t history)
    (write : VariableWrite) :
    Matches (fun execution found db' => execution = found.2.id ∧
        (∃ contracts, t.contract write.contract = .ok (found.1.id, { t with contracts })) ∧
        db' = { db with tables := t.store })
      (t.writer write)
      ((Script.lookUpWriter environment t.block write).run { db with tables := t.store }) := by
  obtain ⟨row, contracts, hrow, hcontract, hname⟩ | ⟨e, -, hrow, -, hunknown⟩ :=
    h.getContract_cases write.contract
  · have hask := Request.run_getContract { db with tables := t.store } hrow
    have hlist :=
      Request.run_listExecutions { db with tables := t.store } (listExecutions_eq h.place)
    rw [Script.lookUpWriter, Script.run_bind_of_ok hask, Script.run_bind_of_ok hlist,
      Ingestion.writer, find?_executions_at, ← h.executionOf?_eq hname]
    cases t.store.executionOf? t.block row.id write.transactionId with
    | none => exact .error
    | some execution => exact .ok ⟨rfl, ⟨contracts, hcontract⟩, rfl⟩
  · -- nobody invokes a contract that is not known
    have hnone : Association.get? (write.contract, write.transactionId) t.executions = none := by
      rw [Option.eq_none_iff_forall_ne_some]
      intro id hid
      obtain ⟨writer, -, -, -, hinvoked⟩ := h.executions hid
      exact hunknown (h.mem_contractNames hinvoked)
    have hask := Request.run_getContract { db with tables := t.store } hrow
    rw [Script.lookUpWriter, Script.run_bind_of_error hask, Ingestion.writer, hnone]
    exact .error

/-- A write to a variable comes to the same either way: the execution that is searched at the block
is the one that was logged. -/
lemma varWrite (h : Driven s environment height block db t db') (write : VariableWrite) :
    Matches (fun t _ => Driven s environment height block db t) (t.writeVariable write)
      ((Script.driveVariable environment block write).run db') := by
  obtain ⟨⟨history, htracks⟩, rfl, rfl⟩ := h
  refine keep (htracks.writeVariable_agrees write) ?_
  refine (writer_matches htracks write).bind ?_
  rintro _ ⟨contract, execution⟩ _ ⟨rfl, ⟨contracts, hcontract⟩, rfl⟩
  simp only [hcontract, ok_bind]
  refine (Matches.findOr (·.findVariable contract.id write.key)
    (·.declareVariable contract.id (.text write.key)) { db with tables := t.store }).bind ?_
  rintro ⟨_, store⟩ id _ ⟨rfl, rfl⟩
  exact write_matches (·.recordVariableInstance id t.block execution.id (.bytes write.value))
    (t := { t with store, contracts }) rfl (fun _ t => t) fun _ _ => ⟨rfl, rfl⟩

/-- A write to a map comes to the same either way. -/
lemma mapWrite (h : Driven s environment height block db t db') (write : MapWrite) :
    Matches (fun t _ => Driven s environment height block db t) (t.writeMap write)
      ((Script.driveMap environment block write).run db') := by
  obtain ⟨⟨history, htracks⟩, rfl, rfl⟩ := h
  refine keep (htracks.writeMap_agrees write) ?_
  refine (contract_matches htracks write.contract).bind ?_
  rintro _ contract _ ⟨⟨contracts, rfl⟩, rfl⟩
  refine (Matches.findOr (·.findMap contract.id write.name)
    (·.declareMap contract.id (.text write.name)) { db with tables := t.store }).bind ?_
  rintro ⟨_, store⟩ id _ ⟨rfl, rfl⟩
  exact write_matches (·.putMapEntry id t.block (.bytes write.keyHash) (.bytes write.value))
    (t := { t with store, contracts }) rfl (fun _ t => t) fun _ _ => ⟨rfl, rfl⟩

end Driven

namespace Store.Consistent

variable {db : Database} (hs : db.tables.Consistent)
include hs

/-- The block is recorded by the same call. -/
lemma recordBlock_matches {owner : Environment}
    (owned : db.tables.environment? owner.id = some owner) (facts : BlockFacts) :
    Matches (fun r block db' => block = r.1 ∧ Driven db.tables owner.id facts.height block db
        { store := r.2, environment := owner, block := r.1 } db')
      (db.tables.recordBlock owner.id (.int facts.height) (.bytes facts.indexHash)
        (.bytes facts.trieRoot))
      ((Request.recordBlock owner.id (.int facts.height) (.bytes facts.indexHash)
        (.bytes facts.trieRoot)).ask.run db) := by
  refine (Matches.of_change (·.recordBlock owner.id (.int facts.height) (.bytes facts.indexHash)
    (.bytes facts.trieRoot)) db).mono ?_
  rintro ⟨_, store⟩ block _ hrecord ⟨rfl, rfl⟩
  have hagrees := hs.recordBlock_tracks owned facts
  rw [hrecord] at hagrees
  obtain ⟨history, -, htracks⟩ := hagrees.of_accepted
  exact ⟨rfl, ⟨history, htracks⟩, rfl, rfl⟩

/-- A payload that is taken in as a whole, and the calls for it one by one, come to the same. -/
theorem driveBlock_matches (payload : BlockPayload) :
    Matches (fun r block db' => block = r.1 ∧ db' = { db with tables := r.2 })
      (db.tables.applyPayload payload) ((Script.driveBlock payload).run db) := by
  rw [applyPayload, Script.driveBlock]
  have hlook := Matches.of_look (fun s => s.resolve payload.environment) db
  refine (hlook.mono fun _ _ _ hresolve hsame => And.intro hresolve hsame).bind ?_
  rintro _ owner _ ⟨hresolve, rfl, rfl⟩
  have owned := hs.environment?_of_resolve hresolve
  have hblock := hs.recordBlock_matches owned
    ⟨payload.height, payload.indexHash, payload.trieRoot⟩
  refine hblock.bind ?_
  rintro ⟨_, store⟩ block _ ⟨rfl, h⟩
  refine (Matches.forM (fun _ _ part h => h.entry part) _ h).bind fun _ _ _ h => ?_
  refine (Matches.forM (fun _ _ part h => h.deployment part) _ h).bind fun _ _ _ h => ?_
  refine (Matches.forM (fun _ _ part h => h.invocation part) _ h).bind fun _ _ _ h => ?_
  refine (Matches.forM (fun _ _ part h => h.varWrite part) _ h).bind fun _ _ _ h => ?_
  refine (Matches.forM (fun _ _ part h => h.mapWrite part) _ h).bind fun _ _ _ h => ?_
  exact .ok ⟨rfl, h.same.2⟩

end Store.Consistent

/-- In every reachable database a payload of the required shape is accepted as a whole exactly if
the calls for it, made one after the other at top level, are all accepted.  Both then answer with the
same block and leave the same tables. -/
theorem Database.Reachable.apply_iff_drive {db : Database} (hdb : db.Reachable) {raw : Value}
    {payload : BlockPayload} (hchecked : BlockPayload.ofValue raw = .ok payload) (block : Int)
    (db' : Database) :
    (Script.applyBlock raw).run db = (.ok block, db') ↔
      (Script.driveBlock payload).run db = (.ok block, db') := by
  have hmatches := hdb.stores.1.consistent.driveBlock_matches payload
  have happly : db.tables.applyBlock raw = db.tables.applyPayload payload := by
    rw [applyBlock, hchecked, ok_bind]
  rw [← happly] at hmatches
  rw [Script.applyBlock_eq_change]
  exact Matches.run_change_iff (f := fun s => s.applyBlock raw) hmatches block

/-- A payload that invokes an old contract and one that it deploys, writes a variable twice and a
map is accepted as a whole and call by call, with the same block and tables.  With an entry that it
writes twice it is refused both ways, but call by call the block has been recorded by then. -/
theorem Database.apply_iff_drive_of_two :
    let raw (key : Bytes) : Value :=
      .record [("environment", .text "a"), ("height", .int 5), ("index_hash", .bytes [5]),
        ("trie_root_hash", .bytes [2]),
        ("entries", .list [.record [("key_hash", .bytes [3]), ("value", .bytes [])],
          .record [("key_hash", .bytes key), ("value", .bytes [])]]),
        ("contracts", .list [.record [("qualified_id", .text "d"), ("source", .bytes [])]]),
        ("executions", .list [.record [("contract", .text "c"), ("tx_id", .bytes [6])],
          .record [("contract", .text "d"), ("tx_id", .bytes [6])]]),
        ("variables", .list [.record [("contract", .text "d"), ("key", .text "k"),
          ("tx_id", .bytes [6]), ("value", .bytes [7])], .record [("contract", .text "d"),
          ("key", .text "k"), ("tx_id", .bytes [6]), ("value", .bytes [8])]]),
        ("maps", .list [.record [("contract", .text "c"), ("name", .text "m"),
          ("key_hash", .bytes [9]), ("value", .bytes [])]])]
    let payload (key : Bytes) : BlockPayload :=
      ⟨.name "a", 5, [5], [2], [⟨[3], []⟩, ⟨key, []⟩], [⟨"d", []⟩], [⟨"c", [6]⟩, ⟨"d", [6]⟩],
        [⟨"d", "k", [6], [7]⟩, ⟨"d", "k", [6], [8]⟩], [⟨"c", "m", [9], []⟩]⟩
    let setUp : List Step :=
      [.call (.createEnvironment (.text "a") (.int 1) (.text "/a")),
        .call (.applyBlock (.record [("environment", .text "a"), ("height", .int 4),
          ("index_hash", .bytes [4]), ("trie_root_hash", .bytes [2]),
          ("contracts", .list [.record [("qualified_id", .text "c"), ("source", .bytes [])]])]))]
    let db := (Step.runAll {} setUp).2
    (∃ db', (Script.applyBlock (raw [4])).run db = (.ok 2, db') ∧
      (Script.driveBlock (payload [4])).run db = (.ok 2, db')) ∧
      (∀ block db', (Script.driveBlock (payload [3])).run db ≠ (.ok block, db')) ∧
      ((Script.driveBlock (payload [3])).run db).2.tables.blocks.map (·.height) = [4, 5] := by
  intro raw payload setUp db
  have hdb : db.Reachable := Step.reachable_runAll (.new false) setUp (by decide)
  have hgood : BlockPayload.ofValue (raw [4]) = .ok (payload [4]) := by decide +kernel
  have hbad : BlockPayload.ofValue (raw [3]) = .ok (payload [3]) := by decide +kernel
  have haccepted : (db.tables.applyBlock (raw [4])).toOption.map (·.1) = some 2 := by decide +kernel
  have hrefused : db.tables.applyBlock (raw [3]) = .error (.entryTaken 2 [3]) := by decide +kernel
  have hleft :
      ((Script.driveBlock (payload [3])).run db).2.tables.blocks.map (·.height) = [4, 5] := by
    decide +kernel
  have hboth := hdb.apply_iff_drive hgood
  have hneither := hdb.apply_iff_drive hbad
  -- nothing more is computed from the database
  clear_value db
  refine ⟨?_, ?_, hleft⟩
  · cases happly : db.tables.applyBlock (raw [4]) with
    | error e =>
      rw [happly] at haccepted
      cases haccepted
    | ok r =>
      rw [happly] at haccepted
      have hblock : r.1 = 2 := Option.some.inj haccepted
      have hrun : (Script.applyBlock (raw [4])).run db = (.ok 2, { db with tables := r.2 }) := by
        rw [Script.applyBlock_eq_change, ← hblock]
        exact Script.run_change_of_ok happly
      exact ⟨_, hrun, (hboth 2 _).1 hrun⟩
  · intro block db' hdrive
    have hrun : (Script.applyBlock (raw [3])).run db = (.error (.entryTaken 2 [3]), db) := by
      rw [Script.applyBlock_eq_change]
      exact Script.run_change_of_error hrefused
    have hok := (hneither block db').2 hdrive
    rw [hrun] at hok
    cases hok

end ReplayLedger
