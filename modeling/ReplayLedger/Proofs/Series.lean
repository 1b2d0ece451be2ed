import ReplayLedger.Proofs.Chronicle
import ReplayLedger.Proofs.Views
import Mathlib.Data.List.DropRight

/-!
# Rows and the calls that made them

The values of a variable and the entries of a map are a `Series`: rows that belong to an owner, which
one call declares and others write.  Owners have ids, and the id of an owner that was dropped is given
out again, so the calls for an owner are those since the last one that declared its id.

A single call does one of four things to a series (`Series.Steps`): it opens the rows of a new owner,
adds a row, leaves all as it is, or takes away owners with all their rows.  Along a chronicle the rows
of an owner are therefore the calls for it, one for one and in the order in which they were made
(`Series.Lawful.map_rowsOf`).
-/

namespace ReplayLedger

open Store

/-! ## What single calls do -/

namespace Call

/-- A call that leaves the tables as they are. -/
def isRead : Call → Bool
  | createEnvironment _ _ _ => false
  | dropEnvironment _ => false
  | applyBlock _ => false
  | c => !c.isAddition

/-- What a single call that is accepted answers and leaves. -/
inductive Outcome (s : Store) : Call → Json → Store → Prop
  | createEnvironment {name kind path : Value} (row : Environment) :
    Outcome s (.createEnvironment name kind path) (.int row.id)
      { s with environments := s.environments ++ [row] }
  | dropEnvironment {id : Int} {removed : RowCounts} {s' : Store}
    (drops : s.dropEnvironment id = .ok (removed, s')) :
    Outcome s (.dropEnvironment id) removed.toJson s'
  | recordBlock {environment : Int} {height indexHash trieRoot : Value} (row : Block) :
    Outcome s (.recordBlock environment height indexHash trieRoot) (.int row.id)
      { s.setMaxHeight environment (some row.height) with blocks := s.blocks ++ [row] }
  | putEntry {block : Int} {keyHash value : Value} (row : StateEntry) :
    Outcome s (.putEntry block keyHash value) (.int row.id) { s with entries := s.entries ++ [row] }
  | registerContract {block : Int} {qualifiedId source : Value} (row : Contract) :
    Outcome s (.registerContract block qualifiedId source) (.int row.id)
      { s with contracts := s.contracts ++ [row] }
  | recordExecution {block contract : Int} {transactionId : Value} (row : Execution) :
    Outcome s (.recordExecution block contract transactionId) (.int row.id)
      { s with executions := s.executions ++ [row] }
  | declareVariable {contract : Int} {key : Value} (row : Variable)
    (fresh : row.id = nextId (s.vars.map (·.id))) :
    Outcome s (.declareVariable contract key) (.int row.id) { s with vars := s.vars ++ [row] }
  | recordVariableInstance {value : Value} (row : VariableInstance)
    (given : Argument.bytes "value" value = .ok row.value) :
    Outcome s (.recordVariableInstance row.variableId row.blockId row.executionId value) (.int row.id)
      { s with instances := s.instances ++ [row] }
  | declareMap {contract : Int} {name : Value} (row : ContractMap)
    (fresh : row.id = nextId (s.maps.map (·.id))) :
    Outcome s (.declareMap contract name) (.int row.id) { s with maps := s.maps ++ [row] }
  | putMapEntry {keyHash value : Value} (row : MapEntry)
    (key : Argument.nonEmptyBytes "key_hash" keyHash = .ok row.keyHash)
    (given : Argument.bytes "value" value = .ok row.value) :
    Outcome s (.putMapEntry row.mapId row.blockId keyHash value) (.int row.id)
      { s with mapEntries := s.mapEntries ++ [row] }
  | read {c : Call} {answer : Json} (reads : c.isRead) : Outcome s c answer s

variable {s s' : Store} {answer : Json}

/-- An accepted single call has the outcome of its kind, call by call. -/
lemma outcome_of_run {c : Call} (hsingle : c.isSingle) (h : c.run s = .ok (answer, s')) :
    Outcome s c answer s' := by
  cases c with
  | applyBlock raw => cases hsingle
  | createEnvironment name kind path =>
    obtain ⟨id, rfl, hadds⟩ := exists_of_written h
    obtain ⟨row, -, -, -, rfl, rfl⟩ := exists_of_createEnvironment hadds
    exact .createEnvironment row
  | dropEnvironment id =>
    obtain ⟨⟨removed, rest⟩, hdrop, hr⟩ := bind_eq_ok.1 h
    obtain ⟨rfl, rfl⟩ := Prod.mk.inj (pure_eq_ok.1 hr)
    exact .dropEnvironment hdrop
  | recordBlock environment height indexHash trieRoot =>
    obtain ⟨id, rfl, hadds⟩ := exists_of_written h
    simp only [Store.recordBlock, advance, insertBlock, bind_eq_ok, ensure_eq_ok, pure_eq_ok,
      Prod.mk.injEq] at hadds
    obtain ⟨facts, -, -, -, s₁, ⟨-, -, rfl⟩, -, -, rfl, rfl⟩ := hadds
    exact .recordBlock ⟨_, environment, facts.height, facts.indexHash, facts.trieRoot⟩
  | putEntry block keyHash value =>
    obtain ⟨id, rfl, hadds⟩ := exists_of_written h
    simp only [Store.putEntry, bind_eq_ok, ensure_eq_ok, pure_eq_ok, Prod.mk.injEq] at hadds
    obtain ⟨k, -, v, -, -, -, -, -, rfl, rfl⟩ := hadds
    exact .putEntry ⟨_, block, k, v⟩
  | registerContract block qualifiedId source =>
    obtain ⟨id, rfl, hadds⟩ := exists_of_written h
    simp only [Store.registerContract, bind_eq_ok, ensure_eq_ok, pure_eq_ok, Prod.mk.injEq] at hadds
    obtain ⟨-, -, src, -, home, -, q, -, -, -, rfl, rfl⟩ := hadds
    exact .registerContract ⟨_, home.environmentId, block, q, src⟩
  | recordExecution block contract transactionId =>
    obtain ⟨id, rfl, hadds⟩ := exists_of_written h
    simp only [Store.recordExecution, bind_eq_ok, ensure_eq_ok, pure_eq_ok, Prod.mk.injEq] at hadds
    obtain ⟨tx, -, -, -, -, -, -, -, -, -, rfl, rfl⟩ := hadds
    exact .recordExecution ⟨_, block, contract, tx⟩
  | declareVariable contract key =>
    obtain ⟨id, rfl, hadds⟩ := exists_of_written h
    simp only [Store.declareVariable, bind_eq_ok, ensure_eq_ok, pure_eq_ok, Prod.mk.injEq] at hadds
    obtain ⟨-, -, -, -, k, -, -, -, rfl, rfl⟩ := hadds
    exact .declareVariable ⟨_, contract, k⟩ rfl
  | recordVariableInstance varId block execution value =>
    obtain ⟨id, rfl, hadds⟩ := exists_of_written h
    simp only [Store.recordVariableInstance, bind_eq_ok, ensure_eq_ok, pure_eq_ok,
      Prod.mk.injEq] at hadds
    obtain ⟨v, hvalue, -, -, -, -, home, -, -, -, -, -, -, -, rfl, rfl⟩ := hadds
    exact .recordVariableInstance ⟨_, varId, block, home.height, execution, v⟩ hvalue
  | declareMap contract name =>
    obtain ⟨id, rfl, hadds⟩ := exists_of_written h
    simp only [Store.declareMap, bind_eq_ok, ensure_eq_ok, pure_eq_ok, Prod.mk.injEq] at hadds
    obtain ⟨-, -, -, -, n, -, -, -, rfl, rfl⟩ := hadds
    exact .declareMap ⟨_, contract, n⟩ rfl
  | putMapEntry mapId block keyHash value =>
    obtain ⟨id, rfl, hadds⟩ := exists_of_written h
    simp only [Store.putMapEntry, bind_eq_ok, ensure_eq_ok, pure_eq_ok, Prod.mk.injEq] at hadds
    obtain ⟨k, hkey, v, hvalue, -, -, -, -, home, -, -, -, rfl, rfl⟩ := hadds
    exact .putMapEntry ⟨_, mapId, block, home.height, k, v⟩ hkey hvalue
  | listEnvironments =>
    rw [(Prod.mk.inj (Except.ok.inj h)).2]
    exact .read rfl
  | _ =>
    rw [looked_eq_ok h]
    exact .read rfl

end Call

/-! ## Series -/

/-- Rows that belong to owners.  A call declares an owner, by answering with its id, and other calls
add rows to it. -/
structure Series (ρ κ : Type) where
  rows : Store → List ρ
  owner : ρ → Int
  /-- The ids of the owners that exist. -/
  ids : Store → List Int
  /-- What a row tells of the call that made it. -/
  made : ρ → κ
  /-- The id of the owner that a call has declared. -/
  declared? : Accepted → Option Int
  /-- The owner that a call has added a row to, and what the call tells. -/
  added? : Accepted → Option (Int × κ)

namespace Series

variable {ρ κ : Type} {S : Series ρ κ} {s s₁ s' : Store} {log calls : List Accepted}
  {accepted : Accepted} {id : Int}

/-- The rows of one owner. -/
def rowsOf (S : Series ρ κ) (s : Store) (id : Int) : List ρ :=
  (S.rows s).filter fun row => S.owner row = id

/-- What calls add to one owner. -/
def addedTo (S : Series ρ κ) (calls : List Accepted) (id : Int) : List κ :=
  under id (calls.filterMap S.added?)

/-- The calls for one owner: those that were made since it was declared. -/
def callsFor (S : Series ρ κ) (log : List Accepted) (id : Int) : List κ :=
  S.addedTo (log.rtakeWhile fun accepted => S.declared? accepted ≠ some id) id

/-- What calls and further calls add is what each of them add. -/
@[simp] lemma addedTo_append (calls calls' : List Accepted) :
    S.addedTo (calls ++ calls') id = S.addedTo calls id ++ S.addedTo calls' id := by
  simp [addedTo]

/-- A call that tells nothing adds nothing. -/
lemma addedTo_of_none (h : S.added? accepted = none) : S.addedTo [accepted] id = [] := by
  simp [addedTo, under, h]

/-- What a single call that is accepted does to a series. -/
inductive Steps (S : Series ρ κ) (s : Store) (accepted : Accepted) (s' : Store) : Prop
  /-- A new owner has an id that no other one has. -/
  | opens (id : Int) (declares : S.declared? accepted = some id) (tells : S.added? accepted = none)
    (fresh : id ∉ S.ids s) (ids : S.ids s' = S.ids s ++ [id]) (rows : S.rows s' = S.rows s)
  | adds (row : ρ) (declares : S.declared? accepted = none)
    (tells : S.added? accepted = some (S.owner row, S.made row))
    (ids : S.ids s' = S.ids s) (rows : S.rows s' = S.rows s ++ [row])
  | keeps (declares : S.declared? accepted = none) (tells : S.added? accepted = none)
    (ids : S.ids s' = S.ids s) (rows : S.rows s' = S.rows s)
  /-- Owners go with all their rows. -/
  | drops (removes : accepted.call.isAddition = false) (declares : S.declared? accepted = none)
    (tells : S.added? accepted = none)
    (live : ∀ id ∈ S.ids s', id ∈ S.ids s ∧ S.rowsOf s' id = S.rowsOf s id)

/-- Every row has an owner that exists, and every single call does what it can do to a series. -/
structure Lawful (S : Series ρ κ) : Prop where
  empty : S.ids .empty = []
  owned {s : Store} : s.Consistent → ∀ row ∈ S.rows s, S.owner row ∈ S.ids s
  steps {s s' : Store} {c : Call} {answer : Json} : s.Consistent → c.isSingle →
    c.run s = .ok (answer, s') → S.Steps s ⟨c, answer⟩ s'

/-- A call that does not declare an owner adds to its rows what it tells. -/
lemma Steps.rowsOf_append (h : S.Steps s accepted s') (hopen : S.declared? accepted ≠ some id)
    (hlive : id ∈ S.ids s') : id ∈ S.ids s ∧ ∃ new, S.rowsOf s' id = S.rowsOf s id ++ new ∧
      new.map S.made = S.addedTo [accepted] id := by
  cases h with
  | opens other declares tells _ ids rows =>
    have hother : id ≠ other := fun hid => hopen (hid ▸ declares)
    rw [ids, List.mem_append, List.mem_singleton] at hlive
    rw [addedTo_of_none tells]
    exact ⟨hlive.resolve_right hother, [], by simp [rowsOf, rows], rfl⟩
  | adds row _ tells ids rows =>
    refine ⟨ids ▸ hlive, [row].filter fun row => S.owner row = id, ?_, ?_⟩
    · simp only [rowsOf, rows, List.filter_append]
    · rw [addedTo, List.filterMap_cons_some tells, List.filterMap_nil, under_singleton]
      by_cases howner : S.owner row = id <;> simp [howner]
  | keeps _ tells ids rows =>
    rw [addedTo_of_none tells]
    exact ⟨ids ▸ hlive, [], by simp [rowsOf, rows], rfl⟩
  | drops _ _ tells live =>
    obtain ⟨hlive', hrows⟩ := live id hlive
    rw [addedTo_of_none tells]
    exact ⟨hlive', [], by simp [hrows], rfl⟩

/-- The id of an owner is not declared again while the owner is there. -/
lemma Steps.not_declared (h : S.Steps s accepted s') (hlive : id ∈ S.ids s) :
    S.declared? accepted ≠ some id := by
  cases h with
  | opens other declares _ fresh =>
    intro hdeclared
    exact fresh (Option.some.inj (declares.symm.trans hdeclared) ▸ hlive)
  | adds _ declares => simp [declares]
  | keeps declares => simp [declares]
  | drops _ declares => simp [declares]

/-- A call that adds a row to an environment leaves every owner. -/
lemma Steps.live (h : S.Steps s accepted s') (hadds : accepted.call.isAddition)
    (hlive : id ∈ S.ids s) : id ∈ S.ids s' := by
  cases h with
  | opens other _ _ _ ids _ => exact ids ▸ List.mem_append_left _ hlive
  | adds _ _ _ ids _ => exact ids ▸ hlive
  | keeps _ _ ids _ => exact ids ▸ hlive
  | drops removes => simp [removes] at hadds

/-- One more call is one more for the owner, or the owner starts afresh with it. -/
lemma callsFor_concat : S.callsFor (log ++ [accepted]) id =
    if S.declared? accepted = some id then []
    else S.callsFor log id ++ S.addedTo [accepted] id := by
  rw [callsFor, List.rtakeWhile_concat]
  by_cases hdeclared : S.declared? accepted = some id
  · simp [hdeclared, addedTo, under]
  · simp [hdeclared, callsFor]

namespace Lawful

/-- An owner that is declared has no rows. -/
lemma rowsOf_opened (hS : S.Lawful) (hs : s.Consistent) (h : S.Steps s accepted s')
    (hopen : S.declared? accepted = some id) : S.rowsOf s' id = [] := by
  cases h with
  | opens other declares _ fresh _ rows =>
    obtain rfl : other = id := Option.some.inj (declares.symm.trans hopen)
    rw [rowsOf, rows, List.filter_eq_nil_iff]
    intro row hrow howner
    exact fresh (of_decide_eq_true howner ▸ hS.owned hs row hrow)
  | adds _ declares => simp [declares] at hopen
  | keeps declares => simp [declares] at hopen
  | drops _ declares => simp [declares] at hopen

/-- The rows of an owner are the calls for it, in the order in which they were made. -/
theorem map_rowsOf (hS : S.Lawful) (h : Performs .empty log s) (hlive : id ∈ S.ids s) :
    (S.rowsOf s id).map S.made = S.callsFor log id := by
  induction h with
  | nil =>
    rw [hS.empty] at hlive
    cases hlive
  | @concat log s₁ s' call answer hbefore hsingle haccepted ih =>
    have hs₁ := (hbefore.reachable .empty).consistent
    have hstep := hS.steps hs₁ hsingle haccepted
    rw [callsFor_concat]
    by_cases hopen : S.declared? ⟨call, answer⟩ = some id
    · rw [if_pos hopen, hS.rowsOf_opened hs₁ hstep hopen, List.map_nil]
    · obtain ⟨hlive₁, new, hrows, hnew⟩ := hstep.rowsOf_append hopen hlive
      rw [if_neg hopen, hrows, List.map_append, ih hlive₁, hnew]

/-- Calls that add rows add to the rows of an owner what they tell of it. -/
lemma rowsOf_adds (hS : S.Lawful) (hs : s.Reachable) (h : Performs s calls s')
    (hadds : ∀ accepted ∈ calls, accepted.call.isAddition) (hlive : id ∈ S.ids s) :
    id ∈ S.ids s' ∧ ∃ new, S.rowsOf s' id = S.rowsOf s id ++ new ∧
      new.map S.made = S.addedTo calls id := by
  induction h with
  | nil => exact ⟨hlive, [], by simp, rfl⟩
  | @concat calls s₁ s' call answer hbefore hsingle haccepted ih =>
    obtain ⟨hlive₁, new, hrows, hnew⟩ :=
      ih fun accepted hmem => hadds accepted (List.mem_append_left _ hmem)
    have hstep := hS.steps (hbefore.reachable hs).consistent hsingle haccepted
    have hlive' := hstep.live (hadds _ (by simp)) hlive₁
    obtain ⟨-, new', hrows', hnew'⟩ := hstep.rowsOf_append (hstep.not_declared hlive₁) hlive'
    refine ⟨hlive', new ++ new', by rw [hrows', hrows, List.append_assoc], ?_⟩
    rw [List.map_append, hnew, hnew', addedTo_append]

/-- Any call adds to the rows of an owner, which is there before and after it, what its single calls
tell of it. -/
lemma rowsOf_run (hS : S.Lawful) (hs : s.Reachable) {c : Call} {answer : Json}
    (h : c.run s = .ok (answer, s')) (hlive : id ∈ S.ids s) (hlive' : id ∈ S.ids s') :
    ∃ new, S.rowsOf s' id = S.rowsOf s id ++ new ∧
      new.map S.made = S.addedTo (c.accepted s) id := by
  cases hsingle : c.isSingle with
  | true =>
    have hstep := hS.steps hs.consistent hsingle h
    rw [Call.accepted_of_single hsingle h]
    exact (hstep.rowsOf_append (hstep.not_declared hlive) hlive').2
  | false =>
    cases c with
    | applyBlock raw =>
      have hadds := Call.adds_accepted h
      exact (hS.rowsOf_adds hs hadds.performs hadds.additions hlive).2
    | _ => cases hsingle

end Lawful

end Series

/-! ## Variables and maps -/

/-- An accepted call that has recorded a value of a variable: its answer and its arguments. -/
structure Recording where
  id : Int
  block : Int
  execution : Int
  value : Bytes
  deriving DecidableEq, Repr, Inhabited

/-- An accepted call that has put an entry into a map: its answer and its arguments. -/
structure Insertion where
  id : Int
  block : Int
  keyHash : Bytes
  value : Bytes
  deriving DecidableEq, Repr, Inhabited

/-- The call that a row of a variable tells of. -/
def VariableInstance.recording (row : VariableInstance) : Recording :=
  ⟨row.id, row.blockId, row.executionId, row.value⟩

/-- The call that a row of a map tells of. -/
def MapEntry.insertion (row : MapEntry) : Insertion :=
  ⟨row.id, row.blockId, row.keyHash, row.value⟩

namespace Series

/-- The values of variables. -/
def vars : Series VariableInstance Recording where
  rows := Store.instances
  owner := VariableInstance.variableId
  ids s := s.vars.map (·.id)
  made := VariableInstance.recording
  declared?
    | ⟨.declareVariable _ _, answer⟩ => some answer.toId
    | _ => none
  added?
    | ⟨.recordVariableInstance varId block execution value, answer⟩ =>
      (Argument.bytes "value" value).toOption.map
        fun data => (varId, ⟨answer.toId, block, execution, data⟩)
    | _ => none

/-- The entries of maps. -/
def maps : Series MapEntry Insertion where
  rows := Store.mapEntries
  owner := MapEntry.mapId
  ids s := s.maps.map (·.id)
  made := MapEntry.insertion
  declared?
    | ⟨.declareMap _ _, answer⟩ => some answer.toId
    | _ => none
  added?
    | ⟨.putMapEntry mapId block keyHash value, answer⟩ => do
      let key ← (Argument.nonEmptyBytes "key_hash" keyHash).toOption
      let data ← (Argument.bytes "value" value).toOption
      return (mapId, ⟨answer.toId, block, key, data⟩)
    | _ => none

variable {s s' : Store}

/-- A new id is not in use. -/
lemma nextId_not_mem (ids : List Int) : nextId ids ∉ ids :=
  fun hmem => Int.lt_irrefl _ (lt_nextId hmem)

/-- Where only rows of other owners go, the rows of an owner stay. -/
lemma filter_owner {ρ : Type} {owner : ρ → Int} {kept : ρ → Bool} {rows : List ρ} {id : Int}
    (hkept : ∀ row ∈ rows, owner row = id → kept row) :
    (rows.filter kept).filter (fun row => owner row = id) =
      rows.filter fun row => owner row = id := by
  rw [List.filter_filter]
  refine List.filter_congr fun row hrow => ?_
  by_cases hown : owner row = id
  · simp [hown, hkept row hrow hown]
  · simp [hown]

/-- Dropping an environment leaves the values of the variables that are left. -/
lemma vars_of_drop (hs : s.Consistent) {dropped id : Int}
    (hlive : id ∈ vars.ids (s.deleteOwned dropped).2) :
    id ∈ vars.ids s ∧ vars.rowsOf (s.deleteOwned dropped).2 id = vars.rowsOf s id := by
  rw [deleteOwned_eq] at hlive ⊢
  obtain ⟨declared, hdeclared, rfl⟩ := List.mem_map.1 hlive
  obtain ⟨hmem, hkept⟩ := List.mem_filter.1 hdeclared
  refine ⟨List.mem_map_of_mem hmem, filter_owner fun row hrow hown => ?_⟩
  obtain ⟨known, hknown, owner, howner, home, hhome, -, -, hid, hownerId, hhomeId, -, -, -, howned,
    -⟩ := hs.links.instances row hrow
  obtain rfl : known = declared :=
    List.inj_on_of_nodup_map (nodup_of_rise hs.ids.vars) hknown hmem (hid.trans hown)
  have hother : ¬ owner.environmentId = dropped := by
    simpa [← hownerId, hs.ids.contractId_mem_iff howner] using hkept
  simp [← hid, ← hhomeId, hs.ids.blockId_mem_iff hhome,
    hs.ids.variableId_mem_iff hknown howner hownerId, howned, hother]

/-- Dropping an environment leaves the entries of the maps that are left. -/
lemma maps_of_drop (hs : s.Consistent) {dropped id : Int}
    (hlive : id ∈ maps.ids (s.deleteOwned dropped).2) :
    id ∈ maps.ids s ∧ maps.rowsOf (s.deleteOwned dropped).2 id = maps.rowsOf s id := by
  rw [deleteOwned_eq] at hlive ⊢
  obtain ⟨declared, hdeclared, rfl⟩ := List.mem_map.1 hlive
  obtain ⟨hmem, hkept⟩ := List.mem_filter.1 hdeclared
  refine ⟨List.mem_map_of_mem hmem, filter_owner fun row hrow hown => ?_⟩
  obtain ⟨known, hknown, owner, howner, home, hhome, hid, hownerId, hhomeId, howned, -⟩ :=
    hs.links.mapEntries row hrow
  obtain rfl : known = declared :=
    List.inj_on_of_nodup_map (nodup_of_rise hs.ids.maps) hknown hmem (hid.trans hown)
  have hother : ¬ owner.environmentId = dropped := by
    simpa [← hownerId, hs.ids.contractId_mem_iff howner] using hkept
  simp [← hid, ← hhomeId, hs.ids.blockId_mem_iff hhome,
    hs.ids.mapId_mem_iff hknown howner hownerId, howned, hother]

/-- Variables are declared by one call, and others add to their values. -/
lemma vars_lawful : vars.Lawful where
  empty := rfl
  owned hs row hrow := by
    obtain ⟨declared, hdeclared, -, -, -, -, -, -, hid, -⟩ := hs.links.instances row hrow
    exact List.mem_map.2 ⟨declared, hdeclared, hid⟩
  steps {s s' c answer} hs hsingle h := by
    cases Call.outcome_of_run hsingle h with
    | declareVariable row fresh =>
      exact .opens row.id rfl rfl (fresh ▸ nextId_not_mem _) (by simp [vars]) rfl
    | recordVariableInstance row given =>
      exact .adds row rfl (by simp only [vars, given]; rfl) rfl rfl
    | dropEnvironment drops =>
      obtain ⟨-, -, rfl⟩ := exists_of_dropEnvironment drops
      exact .drops rfl rfl rfl fun id hlive => vars_of_drop hs hlive
    | read reads =>
      cases c with
      | declareVariable | recordVariableInstance => cases reads
      | _ => exact .keeps rfl rfl rfl rfl
    | _ => exact .keeps rfl rfl rfl rfl

/-- Maps are declared by one call, and others add to their entries. -/
lemma maps_lawful : maps.Lawful where
  empty := rfl
  owned hs row hrow := by
    obtain ⟨declared, hdeclared, -, -, -, -, hid, -⟩ := hs.links.mapEntries row hrow
    exact List.mem_map.2 ⟨declared, hdeclared, hid⟩
  steps {s s' c answer} hs hsingle h := by
    cases Call.outcome_of_run hsingle h with
    | declareMap row fresh =>
      exact .opens row.id rfl rfl (fresh ▸ nextId_not_mem _) (by simp [maps]) rfl
    | putMapEntry row key given =>
      exact .adds row rfl (by simp only [maps, key, given]; rfl) rfl rfl
    | dropEnvironment drops =>
      obtain ⟨-, -, rfl⟩ := exists_of_dropEnvironment drops
      exact .drops rfl rfl rfl fun id hlive => maps_of_drop hs hlive
    | read reads =>
      cases c with
      | declareMap | putMapEntry => cases reads
      | _ => exact .keeps rfl rfl rfl rfl
    | _ => exact .keeps rfl rfl rfl rfl

end Series

end ReplayLedger
