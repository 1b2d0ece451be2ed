import ReplayLedger.Proofs.Removal
import ReplayLedger.Proofs.Series

/-!
# Ids and the order of insertion

The id of a new row is one more than the largest in its table, so it goes down when the last rows
have gone, with a dropped environment or with a scope that is undone, and ids are given out again.
A row is therefore not told by its id alone, but by the call of the chronicle that inserted it: the
id is not in the table before that call, and is there ever since (`InsertedAt`).

What makes ids rise is that a new id is above all ids that are *there*: of two rows that are there
together, the one inserted first was there when the other one came (`InsertedAt.lt`).  What is
listed by id is then listed in the order of the calls.  The executions at a block and the contracts
of an environment are each a `Listing`: the rows of an owner, which are none when the owner comes
and grow at the end, call by call, while it stays.  Unlike a `Series`, a listing may look at the
tables on which a call was made (`Moment`): a contract is registered for a block, and the call does
not say whose block that is.

Main statement: `Database.Chronicle.insertionOrder`.
-/

namespace ReplayLedger

open Store

/-! ## The tables along a chronicle -/

/-- The tables that a call leaves. -/
def Accepted.after (s : Store) (made : Accepted) : Store :=
  match made.call.run s with
  | .ok (_, s') => s'
  | .error _ => s

/-- The tables that calls leave, one after the other. -/
def tablesAfter (log : List Accepted) : Store := log.foldl Accepted.after .empty

/-- A call with the tables on which it was made. -/
structure Moment where
  before : Store
  made : Accepted

/-- Calls with the tables on which they were made, if the first one was made on `s`. -/
def momentsFrom (s : Store) : List Accepted → List Moment
  | [] => []
  | made :: rest => ⟨s, made⟩ :: momentsFrom (made.after s) rest

/-- The calls since a condition holds of the tables, with the tables on which they were made. -/
def momentsSince (p : Store → Bool) (log : List Accepted) : List Moment :=
  (momentsFrom .empty log).rtakeWhile fun moment => p moment.before

section Tables

variable {s s' : Store} {log : List Accepted} {made : Accepted}

/-- An accepted call leaves the store that it has made. -/
lemma after_of_ok {call : Call} {answer : Json} (h : call.run s = .ok (answer, s')) :
    Accepted.after s ⟨call, answer⟩ = s' := by
  simp [Accepted.after, h]

/-- The tables after one more call are what it makes of those before. -/
lemma tablesAfter_concat : tablesAfter (log ++ [made]) = made.after (tablesAfter log) := by
  simp [tablesAfter]

/-- One more call adds one more moment. -/
lemma momentsFrom_concat :
    momentsFrom s (log ++ [made]) = momentsFrom s log ++ [⟨log.foldl Accepted.after s, made⟩] := by
  induction log generalizing s with
  | nil => rfl
  | cons first rest ih => simp [momentsFrom, ih]

/-- One more call adds one more moment, or starts afresh where the condition does not hold before
it. -/
lemma momentsSince_concat {p : Store → Bool} : momentsSince p (log ++ [made]) =
    if p (tablesAfter log) then momentsSince p log ++ [⟨tablesAfter log, made⟩] else [] := by
  rw [momentsSince, momentsFrom_concat, List.rtakeWhile_concat]
  rfl

/-- The calls of a chronicle leave the tables that they lead to. -/
lemma Performs.tablesAfter_eq (h : Performs .empty log s) : tablesAfter log = s := by
  induction h with
  | nil => rfl
  | concat _ _ haccepted ih => rw [tablesAfter_concat, ih, after_of_ok haccepted]

/-- The last of several calls is made on the tables that the others leave. -/
lemma Performs.of_concat {call : Call} {answer : Json}
    (h : Performs .empty (log ++ [⟨call, answer⟩]) s') :
    Performs .empty log (tablesAfter log) ∧ call.isSingle ∧
      call.run (tablesAfter log) = .ok (answer, s') := by
  generalize hlast : log ++ [(⟨call, answer⟩ : Accepted)] = all at h
  cases h with
  | nil => simp at hlast
  | concat hbefore hsingle haccepted =>
    obtain ⟨rfl, hmade⟩ := List.append_inj' hlast rfl
    obtain ⟨rfl, rfl⟩ : call = _ ∧ answer = _ := by simpa using hmade
    rw [hbefore.tablesAfter_eq]
    exact ⟨hbefore, hsingle, haccepted⟩

/-- The first calls of a chronicle lead to the tables that they leave. -/
lemma Performs.take (h : Performs .empty log s) (k : Nat) :
    Performs .empty (log.take k) (tablesAfter (log.take k)) := by
  induction h with
  | nil => simpa [tablesAfter] using Performs.nil
  | @concat log s₁ s' call answer hbefore hsingle haccepted ih =>
    by_cases hk : k ≤ log.length
    · rwa [List.take_append_of_le_length hk]
    · have hwhole := hbefore.concat hsingle haccepted
      rw [List.take_of_length_le (by simp; omega), hwhole.tablesAfter_eq]
      exact hwhole

end Tables

/-! ## What single calls do to ids -/

/-- The table to which an accepted call adds a row. -/
def Call.table? : Call → Option TableName
  | createEnvironment _ _ _ => some .environments
  | recordBlock _ _ _ _ => some .blocks
  | putEntry _ _ _ => some .entries
  | registerContract _ _ _ => some .contracts
  | recordExecution _ _ _ => some .executions
  | declareVariable _ _ => some .vars
  | recordVariableInstance _ _ _ _ => some .instances
  | declareMap _ _ => some .maps
  | putMapEntry _ _ _ _ => some .mapEntries
  | _ => none

section Ids

variable {s s' : Store} {T : TableName}

/-- Ids rise along every table. -/
lemma Store.Consistent.ids_rise (hs : s.Consistent) (T : TableName) :
    (s.ids T).Pairwise (· < ·) := by
  cases T with
  | environments => exact hs.ids.environments
  | blocks => exact hs.ids.blocks
  | entries => exact hs.ids.entries
  | contracts => exact hs.ids.contracts
  | executions => exact hs.ids.executions
  | vars => exact hs.ids.vars
  | instances => exact hs.ids.instances
  | maps => exact hs.ids.maps
  | mapEntries => exact hs.ids.mapEntries

/-- Dropping an environment brings no ids. -/
lemma Store.ids_deleteOwned_sublist (environment : Int) :
    ((s.deleteOwned environment).2.ids T).Sublist (s.ids T) := by
  rw [deleteOwned_eq]
  cases T <;> exact List.filter_sublist.map _

/-- A single call that is accepted puts an id at the end of its table, the one that it answers, and
brings no ids to the other tables. -/
lemma Call.ids_of_run {c : Call} {answer : Json} (hsingle : c.isSingle)
    (h : c.run s = .ok (answer, s')) :
    (∃ id, c.table? = some T ∧ answer = .int id ∧ s'.ids T = s.ids T ++ [id]) ∨
      c.table? ≠ some T ∧ (s'.ids T).Sublist (s.ids T) := by
  cases outcome_of_run hsingle h with
  | dropEnvironment drops =>
    obtain ⟨-, -, rfl⟩ := exists_of_dropEnvironment drops
    exact .inr ⟨by simp [table?], ids_deleteOwned_sublist _⟩
  | read reads =>
    refine .inr ⟨?_, .refl _⟩
    cases c with
    | createEnvironment | recordBlock | putEntry | registerContract | recordExecution
    | declareVariable | recordVariableInstance | declareMap | putMapEntry => cases reads
    | _ => simp [table?]
  | recordBlock row =>
    cases T with
    | environments => simp [table?, Store.ids]
    | _ => simp [table?, Store.ids, setMaxHeight]
  | _ => cases T <;> simp [table?, Store.ids]

end Ids

/-! ## The call that inserted a row -/

/-- The row that has the id in the table was inserted by the call at the position: the id was not in
the table before the call, and has been there ever since. -/
structure InsertedAt (log : List Accepted) (T : TableName) (id : Int) (k : Nat) : Prop where
  made : ∃ call, log[k]? = some ⟨call, .int id⟩ ∧ call.table? = some T
  fresh : id ∉ (tablesAfter (log.take k)).ids T
  lives : ∀ j, k < j → id ∈ (tablesAfter (log.take j)).ids T

namespace InsertedAt

variable {log : List Accepted} {T : TableName} {id id' : Int} {k k' : Nat} {s : Store}

/-- The call that inserted a row is one of the log. -/
lemma lt_length (h : InsertedAt log T id k) : k < log.length := by
  obtain ⟨call, hcall, -⟩ := h.made
  exact (List.getElem?_eq_some_iff.1 hcall).1

/-- A row that is still there was inserted by the call that inserted it. -/
lemma concat {made : Accepted} (h : InsertedAt log T id k)
    (hlive : id ∈ (tablesAfter (log ++ [made])).ids T) : InsertedAt (log ++ [made]) T id k := by
  have hk := h.lt_length
  refine ⟨?_, ?_, fun j hj => ?_⟩
  · rw [List.getElem?_append_left hk]
    exact h.made
  · rw [List.take_append_of_le_length hk.le]
    exact h.fresh
  · by_cases hwhole : j ≤ log.length
    · rw [List.take_append_of_le_length hwhole]
      exact h.lives j hj
    · rwa [List.take_of_length_le (by simp; omega)]

/-- The call that puts an id at the end of its table has inserted the row. -/
lemma last {call : Call} (hinserts : call.table? = some T) (hfresh : id ∉ (tablesAfter log).ids T)
    (hlive : id ∈ (tablesAfter (log ++ [⟨call, .int id⟩])).ids T) :
    InsertedAt (log ++ [⟨call, .int id⟩]) T id log.length := by
  refine ⟨⟨call, by simp, hinserts⟩, by simpa using hfresh, fun j hj => ?_⟩
  rwa [List.take_of_length_le (by simp; omega)]

/-- Every row that is there was inserted by a call of the chronicle. -/
lemma exists_of_mem (h : Performs .empty log s) (hlive : id ∈ s.ids T) :
    ∃ k, InsertedAt log T id k := by
  induction h with
  | nil => cases T <;> cases hlive
  | @concat log s₁ s' call answer hbefore hsingle haccepted ih =>
    have hafter := (hbefore.concat hsingle haccepted).tablesAfter_eq
    have hkept : id ∈ s₁.ids T → ∃ k, InsertedAt (log ++ [⟨call, answer⟩]) T id k := by
      intro hmem
      obtain ⟨k, hk⟩ := ih hmem
      exact ⟨k, hk.concat (hafter ▸ hlive)⟩
    rcases Call.ids_of_run hsingle haccepted with ⟨new, hinserts, rfl, hids⟩ | ⟨-, hsub⟩
    -- the row was there already, or it is the one that the call adds
    · by_cases hmem : id ∈ s₁.ids T
      · exact hkept hmem
      · obtain rfl : id = new := by
          rw [hids, List.mem_append, List.mem_singleton] at hlive
          exact hlive.resolve_left hmem
        exact ⟨_, .last hinserts (hbefore.tablesAfter_eq ▸ hmem) (hafter ▸ hlive)⟩
    · exact hkept (hsub.subset hlive)

/-- Of two rows that are there, the one inserted first has the smaller id: it was there when the
other one came. -/
lemma lt (hlog : Performs .empty log s) (h : InsertedAt log T id k) (h' : InsertedAt log T id' k')
    (hlt : k < k') : id < id' := by
  obtain ⟨call, hcall, hinserts⟩ := h'.made
  -- the ids are compared when the later row has just come, since both are there then
  have hmem : id ∈ (tablesAfter (log.take k')).ids T := h.lives k' hlt
  have hstep := hlog.take (k' + 1)
  have htake : log.take (k' + 1) = log.take k' ++ [⟨call, .int id'⟩] := by
    rw [List.take_add_one, hcall]
    rfl
  rw [htake] at hstep
  have hrise := (hstep.reachable .empty).consistent.ids_rise T
  obtain ⟨-, hsingle, haccepted⟩ := hstep.of_concat
  rcases Call.ids_of_run (T := T) hsingle haccepted with ⟨new, -, hnew, hids⟩ | ⟨hother, -⟩
  · obtain rfl : id' = new := Json.int.inj hnew
    rw [hids] at hrise
    exact (List.pairwise_append.1 hrise).2.2 id hmem id' (List.mem_singleton_self _)
  · exact absurd hinserts hother

/-- Of two rows that are there, the one with the smaller id was inserted earlier. -/
lemma lt_iff (hlog : Performs .empty log s) (h : InsertedAt log T id k)
    (h' : InsertedAt log T id' k') : id < id' ↔ k < k' := by
  refine ⟨fun hid => ?_, lt hlog h h'⟩
  rcases Nat.lt_trichotomy k k' with hk | rfl | hk
  · exact hk
  · obtain ⟨call, hcall, -⟩ := h.made
    obtain ⟨call', hcall', -⟩ := h'.made
    have hsame : id = id' := by
      simpa using congrArg (Option.map (·.answer)) (hcall.symm.trans hcall')
    exact absurd hid (hsame ▸ Int.lt_irrefl id)
  · exact absurd hid (Int.lt_asymm (lt hlog h' h hk))

end InsertedAt

/-! ## Listings -/

/-- The rows of an owner.  Some calls add a row to them. -/
structure Listing (ρ : Type) where
  /-- The owner is there. -/
  owned : Store → Bool
  rows : Store → List ρ
  /-- The row that a call has added. -/
  added? : Moment → Option ρ

/-- There are no rows when the owner comes, and while it is there, calls add theirs at the end. -/
structure Listing.Lawful {ρ : Type} (L : Listing ρ) : Prop where
  empty : L.owned .empty = false
  opens {s s' : Store} {c : Call} {answer : Json} : s.Consistent → c.isSingle →
    c.run s = .ok (answer, s') → L.owned s = false → L.owned s' = true → L.rows s' = []
  grows {s s' : Store} {c : Call} {answer : Json} : s.Consistent → c.isSingle →
    c.run s = .ok (answer, s') → L.owned s = true → L.owned s' = true →
      L.rows s' = L.rows s ++ (L.added? ⟨s, c, answer⟩).toList

/-- The rows that the calls of a chronicle have added since the owner is there, in the order of the
calls. -/
def Listing.fromCalls {ρ : Type} (L : Listing ρ) (log : List Accepted) : List ρ :=
  (momentsSince L.owned log).filterMap L.added?

/-- The rows of an owner are those that calls have added since it is there. -/
theorem Listing.Lawful.rows_eq {ρ : Type} {L : Listing ρ} (hL : L.Lawful) {log : List Accepted}
    {s : Store} (h : Performs .empty log s) (howned : L.owned s = true) :
    L.rows s = L.fromCalls log := by
  induction h with
  | nil => simp [hL.empty] at howned
  | @concat log s₁ s' call answer hbefore hsingle haccepted ih =>
    have hs₁ := (hbefore.reachable .empty).consistent
    rw [fromCalls, momentsSince_concat, hbefore.tablesAfter_eq]
    cases hbefore' : L.owned s₁ with
    | false => simpa using hL.opens hs₁ hsingle haccepted hbefore' howned
    | true =>
      rw [hL.grows hs₁ hsingle haccepted hbefore' howned, ih hbefore', if_pos rfl, fromCalls,
        List.filterMap_append]
      cases hadded : L.added? ⟨s₁, call, answer⟩ <;> simp [hadded]

/-- The executions at a block. -/
def Listing.executionsAt (block : Int) : Listing Execution where
  owned s := block ∈ s.ids .blocks
  rows s := s.executions.filter fun row => row.blockId = block
  added?
    | ⟨_, .recordExecution home contract transactionId, answer⟩ =>
      if home = block then
        (Argument.nonEmptyBytes "tx_id" transactionId).toOption.map
          fun data => ⟨answer.toId, home, contract, data⟩
      else none
    | _ => none

/-- The contracts of an environment.  A call that registers one is made for a block, and it takes
the tables to tell whose block that is. -/
def Listing.contractsOf (environment : Int) : Listing Contract where
  owned s := environment ∈ s.ids .environments
  rows s := s.contracts.filter fun row => row.environmentId = environment
  added?
    | ⟨s, .registerContract block qualifiedId source, answer⟩ =>
      if block ∈ s.blockIdsOf environment then do
        let given ← (Argument.name "qualified_id" qualifiedId).toOption
        let name ← given.encoded.toOption
        let data ← (Argument.bytes "source" source).toOption
        return ⟨answer.toId, environment, block, name, data⟩
      else none
    | _ => none

section Rows

variable {s s' : Store} {answer : Json} {block contract environment : Int}

/-- An execution that is recorded is a new row with the checked transaction. -/
lemma exists_execution {transactionId : Value}
    (h : (Call.recordExecution block contract transactionId).run s = .ok (answer, s')) :
    ∃ id data, Argument.nonEmptyBytes "tx_id" transactionId = .ok data ∧ answer = .int id ∧
      s' = { s with executions := s.executions ++ [⟨id, block, contract, data⟩] } := by
  obtain ⟨id, rfl, hadds⟩ := Call.exists_of_written h
  simp only [recordExecution, bind_eq_ok, ensure_eq_ok, pure_eq_ok, Prod.mk.injEq] at hadds
  obtain ⟨data, hdata, -, -, -, -, -, -, -, -, rfl, rfl⟩ := hadds
  exact ⟨_, data, hdata, rfl, rfl⟩

/-- A contract that is registered is a new row with the checked texts, in the environment of the
block. -/
lemma exists_contract {qualifiedId source : Value}
    (h : (Call.registerContract block qualifiedId source).run s = .ok (answer, s')) :
    ∃ id name data home, Argument.name "qualified_id" qualifiedId = .ok (.text name) ∧
      Argument.bytes "source" source = .ok data ∧ s.block? block = some home ∧ answer = .int id ∧
      s' = { s with contracts :=
        s.contracts ++ [⟨id, home.environmentId, block, name, data⟩] } := by
  obtain ⟨id, rfl, hadds⟩ := Call.exists_of_written h
  simp only [registerContract, referencedBlock, bind_eq_ok, ensure_eq_ok, require_eq_ok,
    encoded_eq_ok, pure_eq_ok, Prod.mk.injEq] at hadds
  obtain ⟨-, hname, data, hdata, home, ⟨-, -, hhome⟩, name, rfl, -, -, rfl, rfl⟩ := hadds
  exact ⟨_, name, data, home, hname, hdata, hhome, rfl, rfl⟩

/-- Dropping an environment leaves the executions at the blocks that are left. -/
lemma executions_of_drop (hs : s.Consistent) {dropped : Int}
    (hlive : block ∈ (s.deleteOwned dropped).2.ids .blocks) :
    (Listing.executionsAt block).rows (s.deleteOwned dropped).2 =
      (Listing.executionsAt block).rows s := by
  rw [deleteOwned_eq] at hlive ⊢
  obtain ⟨home, hhome, rfl⟩ := List.mem_map.1 hlive
  obtain ⟨hmem, hkept⟩ := List.mem_filter.1 hhome
  refine Series.filter_owner fun row _ hrow => ?_
  rw [hrow]
  simpa [-mem_blockIdsOf, hs.ids.blockId_mem_iff hmem] using hkept

/-- Dropping an environment leaves the contracts of the others. -/
lemma contracts_of_drop {dropped : Int}
    (hlive : environment ∈ (s.deleteOwned dropped).2.ids .environments) :
    (Listing.contractsOf environment).rows (s.deleteOwned dropped).2 =
      (Listing.contractsOf environment).rows s := by
  rw [deleteOwned_eq] at hlive ⊢
  obtain ⟨owner, howner, rfl⟩ := List.mem_map.1 hlive
  refine Series.filter_owner fun row _ hrow => ?_
  rw [hrow]
  exact (List.mem_filter.1 howner).2

/-- A call that brings an id into a table adds a row to that table. -/
lemma table?_of_opens {T : TableName} {c : Call} {id : Int} (hsingle : c.isSingle)
    (h : c.run s = .ok (answer, s')) (hfresh : id ∉ s.ids T) (hlive : id ∈ s'.ids T) :
    c.table? = some T := by
  rcases Call.ids_of_run (T := T) hsingle h with ⟨-, hinserts, -, -⟩ | ⟨-, hsub⟩
  · exact hinserts
  · exact absurd (hsub.subset hlive) hfresh

end Rows

/-- Executions at a block are added by the calls that name the block, and go when it goes. -/
lemma Listing.executionsAt_lawful (block : Int) : (executionsAt block).Lawful where
  empty := rfl
  opens {s s' c answer} hs hsingle h hbefore hlive := by
    have hfresh : block ∉ s.ids .blocks := of_decide_eq_false hbefore
    have hinserts := table?_of_opens hsingle h hfresh (of_decide_eq_true hlive)
    cases Call.outcome_of_run hsingle h with
    | recordBlock row =>
      -- an execution at the block would link to it before it is there
      refine List.filter_eq_nil_iff.2 fun row hrow hblock => hfresh ?_
      obtain ⟨home, hhome, -, -, hid, -⟩ := hs.links.executions row hrow
      exact List.mem_map.2 ⟨home, hhome, hid.trans (of_decide_eq_true hblock)⟩
    | read => simp [hbefore] at hlive
    | _ => cases hinserts
  grows {s s' c answer} hs hsingle h _ hlive := by
    cases Call.outcome_of_run hsingle h with
    | @recordExecution home _ _ _ =>
      obtain ⟨id, data, hdata, hanswer, hs'⟩ := exists_execution h
      rw [hs', hanswer]
      by_cases hhome : home = block <;>
        simp [executionsAt, hhome, hdata, Except.toOption, Json.toId]
    | dropEnvironment drops =>
      obtain ⟨-, -, rfl⟩ := exists_of_dropEnvironment drops
      rw [executions_of_drop hs (of_decide_eq_true hlive)]
      simp [executionsAt]
    | read reads =>
      cases c with
      | recordExecution => cases reads
      | _ => simp [executionsAt]
    | _ => simp [executionsAt, setMaxHeight]

/-- Contracts of an environment are added by the calls that name one of its blocks, and go when it
goes. -/
lemma Listing.contractsOf_lawful (environment : Int) : (contractsOf environment).Lawful where
  empty := rfl
  opens {s s' c answer} hs hsingle h hbefore hlive := by
    -- what is created has no contracts yet: they would refer to an environment that is not there
    have hfresh : environment ∉ s.ids .environments := of_decide_eq_false hbefore
    have hinserts := table?_of_opens hsingle h hfresh (of_decide_eq_true hlive)
    cases Call.outcome_of_run hsingle h with
    | createEnvironment row =>
      refine List.filter_eq_nil_iff.2 fun row hrow howned => hfresh ?_
      obtain ⟨owner, howner, -, -, hid, -⟩ := hs.links.contracts row hrow
      exact List.mem_map.2 ⟨owner, howner, hid.trans (of_decide_eq_true howned)⟩
    | read => simp [hbefore] at hlive
    | _ => cases hinserts
  grows {s s' c answer} hs hsingle h _ hlive := by
    cases Call.outcome_of_run hsingle h with
    | registerContract =>
      obtain ⟨id, name, data, home, hname, hdata, hhome, hanswer, hs'⟩ := exists_contract h
      obtain ⟨hmem, rfl⟩ := hs.block?_eq_some.1 hhome
      rw [hs', hanswer]
      by_cases howned : home.environmentId = environment <;>
        simp [-mem_blockIdsOf, contractsOf, hs.ids.blockId_mem_iff hmem, howned, hname, hdata,
          encoded_text, Except.toOption, Json.toId]
    | dropEnvironment drops =>
      obtain ⟨-, -, rfl⟩ := exists_of_dropEnvironment drops
      rw [contracts_of_drop (of_decide_eq_true hlive)]
      simp [contractsOf]
    | read reads =>
      cases c with
      | registerContract => cases reads
      | _ => simp [contractsOf]
    | _ => simp [contractsOf, setMaxHeight]

/-! ## What is listed -/

section Listed

variable {s s' : Store} {block environment : Int}

/-- The executions at a block that exists are listed. -/
lemma listExecutions_eq (hs : s.Consistent) (hlive : block ∈ s.ids .blocks) :
    s.listExecutions block = .ok ((Listing.executionsAt block).rows s) := by
  obtain ⟨home, hhome, rfl⟩ := List.mem_map.1 hlive
  have hfound : s.getBlockById home.id = .ok home :=
    (require_row_eq_ok hs.block?_eq_some).2 ⟨hhome, rfl⟩
  rw [listExecutions, hfound]
  rfl

/-- The contracts of an environment that exists are listed. -/
lemma listContracts_eq (hlive : environment ∈ s.ids .environments) :
    s.listContracts environment = .ok ((Listing.contractsOf environment).rows s) := by
  have hid : storableId (s.environments.map (·.id)) environment = .ok () :=
    storableId_eq_ok.2 (.inr hlive)
  rw [listContracts, hid]
  rfl

/-- An environment that keeps the rows it owns is still there. -/
lemma mem_ids_of_appends (h : Appends (s.ownedBy environment) (s'.ownedBy environment))
    (hlive : environment ∈ s.ids .environments) : environment ∈ s'.ids .environments := by
  obtain ⟨owner, howner, hid⟩ := List.mem_map.1 hlive
  have hmem : owner ∈ (s.ownedBy environment).environments :=
    List.mem_filter.2 ⟨howner, decide_eq_true hid⟩
  obtain ⟨owner', howner', hsame⟩ :=
    List.mem_map.1 (h.environments.subset (List.mem_map_of_mem hmem))
  exact List.mem_map.2 ⟨owner', (List.mem_filter.1 howner').1,
    (Environment.id_eq_of_identity hsame).trans hid⟩

/-- So are its blocks. -/
lemma mem_blockIdsOf_of_appends (h : Appends (s.ownedBy environment) (s'.ownedBy environment))
    (hlive : block ∈ s.blockIdsOf environment) : block ∈ s'.blockIdsOf environment := by
  obtain ⟨home, hhome, rfl⟩ := List.mem_map.1 hlive
  exact List.mem_map_of_mem (h.blocks.subset hhome)

/-- The executions at a block are among those that its environment owns. -/
lemma executionsAt_rows (hlive : block ∈ s.blockIdsOf environment) :
    (Listing.executionsAt block).rows s =
      (s.ownedBy environment).executions.filter fun row => row.blockId = block := by
  refine (Series.filter_owner fun row _ hrow => ?_).symm
  rw [hrow]
  exact decide_eq_true hlive

end Listed

namespace Database

variable {db : Database} {log : List Accepted} {saved : List (List Accepted)}

/-- Calls that do not drop an environment only append to the rows that it owns. -/
lemma Reachable.appends_ownedBy_calls (hdb : db.Reachable) {environment : Int} {calls : List Call}
    (hkeep : .dropEnvironment environment ∉ calls) :
    Appends (db.tables.ownedBy environment)
      ((Step.runAll db (calls.map .call)).2.tables.ownedBy environment) := by
  induction calls generalizing db with
  | nil => exact .refl _
  | cons c rest ih =>
    obtain ⟨hfirst, hrest⟩ := List.ne_and_not_mem_of_not_mem_cons hkeep
    have hone := hdb.appends_ownedBy (Ne.symm hfirst)
    have hlater := ih (hdb.call c) hrest
    rw [← Step.snd_run_call] at hone hlater
    exact hone.trans hlater

/-- Every row that is there was inserted by a call of the chronicle, and of two rows of one table
the one with the smaller id was inserted earlier, although ids are given out again.  So the
executions at a block and the contracts of an environment are listed in the order of the accepted
calls, one for each call since the block or the environment is there, and until the environment is
dropped, further calls can only append to these lists. -/
theorem Chronicle.insertionOrder (h : db.Chronicle log saved) :
    (∀ T, ∀ id ∈ db.tables.ids T, ∃ k, InsertedAt log T id k) ∧
      (∀ T id id' k k', InsertedAt log T id k → InsertedAt log T id' k' → (id < id' ↔ k < k')) ∧
      (∀ block ∈ db.tables.ids .blocks,
        db.tables.listExecutions block = .ok ((Listing.executionsAt block).fromCalls log)) ∧
      (∀ environment ∈ db.tables.ids .environments,
        db.tables.listContracts environment =
          .ok ((Listing.contractsOf environment).fromCalls log)) ∧
      ∀ environment ∈ db.tables.ids .environments,
        ∀ calls : List Call, .dropEnvironment environment ∉ calls →
        let later := (Step.runAll db (calls.map .call)).2.tables
        (∃ contracts new, db.tables.listContracts environment = .ok contracts ∧
          later.listContracts environment = .ok (contracts ++ new)) ∧
        ∀ block ∈ db.tables.blockIdsOf environment, ∃ executions new,
          db.tables.listExecutions block = .ok executions ∧
            later.listExecutions block = .ok (executions ++ new) := by
  have hlog := h.performs.1
  have hs := h.reachable.stores.1.consistent
  refine ⟨fun T id hlive => InsertedAt.exists_of_mem hlog hlive,
    fun T id id' k k' hk hk' => InsertedAt.lt_iff hlog hk hk', fun block hlive => ?_,
    fun environment hlive => ?_, fun environment hlive calls hkeep => ⟨?_, fun block hblock => ?_⟩⟩
  · rw [listExecutions_eq hs hlive,
      (Listing.executionsAt_lawful block).rows_eq hlog (decide_eq_true hlive)]
  · rw [listContracts_eq hlive,
      (Listing.contractsOf_lawful environment).rows_eq hlog (decide_eq_true hlive)]
  · have happends := h.reachable.appends_ownedBy_calls hkeep
    obtain ⟨new, hnew⟩ := happends.contracts
    refine ⟨_, new, listContracts_eq hlive, ?_⟩
    rw [listContracts_eq (mem_ids_of_appends happends hlive)]
    exact congrArg Except.ok hnew.symm
  · have happends := h.reachable.appends_ownedBy_calls hkeep
    have hlater := (h.calls calls).reachable.stores.1.consistent
    have hblock' := mem_blockIdsOf_of_appends happends hblock
    obtain ⟨new, hnew⟩ := happends.executions
    have hids {s : Store} (hmem : block ∈ s.blockIdsOf environment) : block ∈ s.ids .blocks :=
      (List.filter_sublist.map _).subset hmem
    refine ⟨_, new.filter fun row => row.blockId = block, listExecutions_eq hs (hids hblock), ?_⟩
    rw [listExecutions_eq hlater (hids hblock'), executionsAt_rows hblock',
      executionsAt_rows hblock, ← hnew, List.filter_append]

/-- An environment is dropped and its ids are given out again: the environment, its block, its
contract and its execution all have ids that others had before.  The second execution gets the id
of one that was undone. -/
theorem insertionOrder_of_reused_ids :
    let setUp (name : String) : List Call :=
      [.createEnvironment (.text name) (.int 1) (.text "/chain"),
        .recordBlock 1 (.int 3) (.bytes [1]) (.bytes [0]),
        .registerContract 1 (.text "c") (.bytes []), .recordExecution 1 1 (.bytes [5])]
    let before : List Call := setUp "gone" ++ [.dropEnvironment 1] ++ setUp "a"
    let undone : List Call :=
      [.registerContract 1 (.text "d") (.bytes []), .recordExecution 1 2 (.bytes [6])]
    let after : List Call :=
      [.registerContract 1 (.text "e") (.bytes []), .recordExecution 1 2 (.bytes [7])]
    let scope := (Step.runAll {} (before.map .call)).2.openScope
    let back := (Step.runAll scope (undone.map .call)).2.rollBack
    let db := (Step.runAll back (after.map .call)).2
    let log := Call.acceptedAll {} before ++ Call.acceptedAll back after
    let next : Call := .recordExecution 1 1 (.bytes [8])
    db.Chronicle log [] ∧
      db.tables.listExecutions 1 = .ok [⟨1, 1, 1, [5]⟩, ⟨2, 1, 2, [7]⟩] ∧
      (Listing.executionsAt 1).fromCalls log = [⟨1, 1, 1, [5]⟩, ⟨2, 1, 2, [7]⟩] ∧
      (Listing.contractsOf 1).fromCalls log = [⟨1, 1, 1, "c", []⟩, ⟨2, 1, 1, "e", []⟩] ∧
      (∃ k k', InsertedAt log .executions 1 k ∧ InsertedAt log .executions 2 k' ∧ k < k') ∧
      ∃ executions new, db.tables.listExecutions 1 = .ok executions ∧
        (Step.runAll db ([next].map .call)).2.tables.listExecutions 1 =
          .ok (executions ++ new) := by
  intro setUp before undone after scope back db log next
  have h : db.Chronicle log [] :=
    (((Chronicle.new false).calls before).openScope.calls undone).rollBack.calls after
  obtain ⟨hinserted, horder, hexecutions, -, happends⟩ := h.insertionOrder
  have hlisted : db.tables.listExecutions 1 = .ok [⟨1, 1, 1, [5]⟩, ⟨2, 1, 2, [7]⟩] := by
    decide +kernel
  have hfrom := Except.ok.inj ((hexecutions 1 (by decide +kernel)).symm.trans hlisted)
  obtain ⟨k, hk⟩ := hinserted .executions 1 (by decide +kernel)
  obtain ⟨k', hk'⟩ := hinserted .executions 2 (by decide +kernel)
  have hlater := (happends 1 (by decide +kernel) [next] (by simp [next])).2 1 (by decide +kernel)
  exact ⟨h, hlisted, hfrom, by decide +kernel,
    ⟨k, k', hk, hk', (horder _ _ _ _ _ hk hk').1 (by decide)⟩, hlater⟩

end Database

end ReplayLedger
