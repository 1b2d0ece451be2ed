import ReplayLedger.Proofs.Change
import Mathlib.Data.List.Forall2

/-!
# The calls behind a database

The tables of a database are what its accepted calls have left.  A `Chronicle` keeps these calls, in
the order in which they were made and with their answers: a call is added when it is accepted, and a
scope that is undone takes its calls with it.  Every run has a chronicle
(`Database.Reachable.exists_chronicle`).

A payload is accepted as a whole, but it is written by single calls, so a chronicle has these in its
place.  `Noted` takes a payload in just as the store does and notes the calls (`Noted.ofPayload_of_ok`).

Performed one after the other on an empty store, the calls of a chronicle give the same answers and
lead to the tables (`Database.Chronicle.performs`).
-/

namespace ReplayLedger

/-- A call that was accepted, and its answer. -/
structure Accepted where
  call : Call
  answer : Json

namespace Call

/-- A call that is not made up of others. -/
def isSingle : Call → Bool
  | applyBlock _ => false
  | _ => true

/-- A call that adds a row to an environment. -/
def isAddition : Call → Bool
  | recordBlock _ _ _ _ => true
  | putEntry _ _ _ => true
  | registerContract _ _ _ => true
  | recordExecution _ _ _ => true
  | declareVariable _ _ => true
  | recordVariableInstance _ _ _ _ => true
  | declareMap _ _ => true
  | putMapEntry _ _ _ _ => true
  | _ => false

/-- A call that adds rows is a single one, since only payloads are not. -/
lemma isSingle_of_isAddition {c : Call} (h : c.isAddition) : c.isSingle := by
  cases c with
  | applyBlock raw => cases h
  | _ => rfl

end Call

/-! ## Calls one after the other -/

/-- Single calls that are accepted one after the other. -/
inductive Performs (s : Store) : List Accepted → Store → Prop
  | nil : Performs s [] s
  | concat {log : List Accepted} {s₁ s' : Store} {call : Call} {answer : Json}
    (before : Performs s log s₁) (single : call.isSingle)
    (accepted : call.run s₁ = .ok (answer, s')) : Performs s (log ++ [⟨call, answer⟩]) s'

namespace Performs

variable {s s₁ s' : Store} {log log' : List Accepted}

/-- An accepted call is one step. -/
lemma single {call : Call} {answer : Json} (hsingle : call.isSingle)
    (h : call.run s = .ok (answer, s')) : Performs s [⟨call, answer⟩] s' :=
  .concat .nil hsingle h

/-- Calls after calls are performed one after the other. -/
lemma trans (h : Performs s log s₁) (h' : Performs s₁ log' s') : Performs s (log ++ log') s' := by
  induction h' with
  | nil =>
    rw [List.append_nil]
    exact h
  | concat _ hsingle haccepted ih =>
    rw [← List.append_assoc]
    exact ih.concat hsingle haccepted

/-- Accepted calls lead from a reachable store to a reachable store. -/
lemma reachable (h : Performs s log s') (hs : s.Reachable) : s'.Reachable := by
  induction h with
  | nil => exact hs
  | concat _ _ haccepted ih => exact ih.call _ haccepted

end Performs

/-- Calls that add rows, one after the other. -/
structure Adds (s : Store) (calls : List Accepted) (s' : Store) : Prop where
  performs : Performs s calls s'
  additions : ∀ made ∈ calls, made.call.isAddition

namespace Adds

variable {s s₁ s' : Store} {calls calls' : List Accepted}

lemma refl (s : Store) : Adds s [] s := ⟨.nil, nofun⟩

/-- Additions after additions are additions. -/
lemma trans (h : Adds s calls s₁) (h' : Adds s₁ calls' s') : Adds s (calls ++ calls') s' := by
  refine ⟨h.performs.trans h'.performs, fun made hmade => ?_⟩
  rcases List.mem_append.1 hmade with hmade | hmade
  · exact h.additions made hmade
  · exact h'.additions made hmade

end Adds

/-! ## The calls of a payload -/

/-- The id that an answer tells. -/
def Json.toId : Json → Int
  | .int id => id
  | .null | .bool _ | .float _ | .text _ | .array _ | .object _ => 0

/-- A payload on its way into the store, with the calls that were made for it so far. -/
structure Noted where
  taken : Ingestion
  calls : List Accepted := []

namespace Noted

/-- Makes a call that adds a row, for the id of the row. -/
def make (n : Noted) (call : Call) : Except Error (Int × Noted) := do
  let (answer, store) ← call.run n.taken.store
  return (answer.toId, ⟨{ n.taken with store }, n.calls ++ [⟨call, answer⟩]⟩)

/-- Writes a trie leaf. -/
def writeEntry (n : Noted) (write : EntryWrite) : Except Error Noted := do
  let (_, n) ← n.make (.putEntry n.taken.block (.bytes write.keyHash) (.bytes write.value))
  return n

/-- Deploys a contract. -/
def deploy (n : Noted) (deployment : Deployment) : Except Error Noted := do
  let (id, n) ← n.make
    (.registerContract n.taken.block (.text deployment.qualifiedId) (.bytes deployment.source))
  let contracts := Association.put deployment.qualifiedId id n.taken.contracts
  return { n with taken := { n.taken with contracts } }

/-- Logs an invocation. -/
def invoke (n : Noted) (invocation : Invocation) : Except Error Noted := do
  let (contract, taken) ← n.taken.contract invocation.contract
  let (id, n) ← { n with taken }.make
    (.recordExecution taken.block contract (.bytes invocation.transactionId))
  let executions :=
    Association.put (invocation.contract, invocation.transactionId) id n.taken.executions
  return { n with taken := { n.taken with executions } }

/-- The id that is found, or else that of a new declaration. -/
def findOr (n : Noted) (declare : Call) : Option Int → Except Error (Int × Noted)
  | some id => .ok (id, n)
  | none => n.make declare

/-- Writes a variable, which is declared first if it is not yet. -/
def writeVariable (n : Noted) (write : VariableWrite) : Except Error Noted := do
  let execution ← n.taken.writer write
  let (contract, taken) ← n.taken.contract write.contract
  let found ← taken.store.findVariable contract write.key
  let (id, n) ← { n with taken }.findOr (.declareVariable contract (.text write.key)) found
  let (_, n) ← n.make (.recordVariableInstance id taken.block execution (.bytes write.value))
  return n

/-- Writes a key of a map, which is declared first if it is not yet. -/
def writeMap (n : Noted) (write : MapWrite) : Except Error Noted := do
  let (contract, taken) ← n.taken.contract write.contract
  let found ← taken.store.findMap contract write.name
  let (id, n) ← { n with taken }.findOr (.declareMap contract (.text write.name)) found
  let (_, n) ← n.make (.putMapEntry id taken.block (.bytes write.keyHash) (.bytes write.value))
  return n

/-- Takes in a whole payload. -/
def ofPayload (s : Store) (payload : BlockPayload) : Except Error Noted := do
  let environment ← s.resolve payload.environment
  let (block, n) ← make { taken := { store := s, environment, block := 0 } }
    (.recordBlock environment.id (.int payload.height) (.bytes payload.indexHash)
      (.bytes payload.trieRoot))
  let n ← payload.entries.foldlM writeEntry { n with taken := { n.taken with block } }
  let n ← payload.contracts.foldlM deploy n
  let n ← payload.executions.foldlM invoke n
  let n ← payload.varWrites.foldlM writeVariable n
  payload.mapWrites.foldlM writeMap n

/-- A call that answers with the id of its new row is noted with it. -/
lemma make_of_written (n : Noted) (call : Call) {outcome : Except Error (Int × Store)} {id : Int}
    {store : Store} (hadds : call.isAddition) (hrun : call.run n.taken.store = Call.written outcome)
    (h : outcome = .ok (id, store)) :
    n.make call = .ok (id, ⟨{ n.taken with store }, n.calls ++ [⟨call, .int id⟩]⟩) ∧
      Adds n.taken.store [⟨call, .int id⟩] store := by
  have haccepted : call.run n.taken.store = .ok (.int id, store) := by
    rw [hrun, h]
    rfl
  refine ⟨by rw [make, haccepted]; rfl, .single (Call.isSingle_of_isAddition hadds) haccepted,
    fun made hmade => ?_⟩
  rw [List.mem_singleton.1 hmade]
  exact hadds

/-- What is noted for a payload on its way goes along with it. -/
def Notes (note : Except Error Noted) (n : Noted) (t' : Ingestion) : Prop :=
  ∃ calls, note = .ok ⟨t', n.calls ++ calls⟩ ∧ Adds n.taken.store calls t'.store

variable {n : Noted} {t t' : Ingestion}

/-- A leaf is written by one call, with the same values. -/
lemma notes_writeEntry {write : EntryWrite} (h : n.taken.writeEntry write = .ok t') :
    Notes (n.writeEntry write) n t' := by
  obtain ⟨⟨id, store⟩, hput, ht⟩ := bind_eq_ok.1 h
  obtain rfl := pure_eq_ok.1 ht
  obtain ⟨hmake, hadds⟩ := make_of_written n
    (.putEntry n.taken.block (.bytes write.keyHash) (.bytes write.value)) rfl rfl hput
  exact ⟨_, by rw [writeEntry, hmake]; rfl, hadds⟩

/-- A contract is deployed by one call, and its id is kept under its identifier. -/
lemma notes_deploy {deployment : Deployment} (h : n.taken.deploy deployment = .ok t') :
    Notes (n.deploy deployment) n t' := by
  obtain ⟨⟨id, store⟩, hregister, ht⟩ := bind_eq_ok.1 h
  obtain rfl := pure_eq_ok.1 ht
  obtain ⟨hmake, hadds⟩ := make_of_written n (.registerContract n.taken.block
    (.text deployment.qualifiedId) (.bytes deployment.source)) rfl rfl hregister
  exact ⟨_, by rw [deploy, hmake]; rfl, hadds⟩

/-- An invocation is logged by one call, after its contract has been looked up, which changes no
row. -/
lemma notes_invoke {invocation : Invocation} (h : n.taken.invoke invocation = .ok t') :
    Notes (n.invoke invocation) n t' := by
  obtain ⟨⟨contract, taken⟩, hcontract, h⟩ := bind_eq_ok.1 h
  obtain ⟨⟨id, store⟩, hrecord, ht⟩ := bind_eq_ok.1 h
  obtain rfl := pure_eq_ok.1 ht
  obtain ⟨hmake, hadds⟩ := make_of_written { n with taken } (.recordExecution
    taken.block contract (.bytes invocation.transactionId)) rfl rfl hrecord
  rw [Ingestion.store_of_contract hcontract] at hadds
  refine ⟨_, ?_, hadds⟩
  rw [invoke, hcontract, ok_bind]
  simp only [hmake, ok_bind]
  rfl

/-- A declaration is noted if one is made. -/
lemma notes_findOr (n : Noted) (declare : Call) {found : Option Int}
    {outcome : Except Error (Int × Store)} {id : Int} {store : Store} (hadds : declare.isAddition)
    (hrun : declare.run n.taken.store = Call.written outcome)
    (h : (match found with
      | some id => pure (id, n.taken.store)
      | none => outcome) = .ok (id, store)) :
    ∃ calls, n.findOr declare found = .ok (id, ⟨{ n.taken with store }, n.calls ++ calls⟩) ∧
      Adds n.taken.store calls store := by
  cases found with
  | some known =>
    obtain ⟨rfl, rfl⟩ := Prod.mk.inj (pure_eq_ok.1 h)
    exact ⟨[], by rw [List.append_nil]; rfl, .refl _⟩
  | none =>
    obtain ⟨hmake, hdeclared⟩ := make_of_written n declare hadds hrun h
    exact ⟨_, hmake, hdeclared⟩

/-- A variable is written by one call or, where it is declared first, by two. -/
lemma notes_writeVariable {write : VariableWrite} (h : n.taken.writeVariable write = .ok t') :
    Notes (n.writeVariable write) n t' := by
  obtain ⟨execution, hwriter, h⟩ := bind_eq_ok.1 h
  obtain ⟨⟨contract, taken⟩, hcontract, h⟩ := bind_eq_ok.1 h
  obtain ⟨⟨id, store⟩, hid, h⟩ := bind_eq_ok.1 h
  obtain ⟨⟨answer, store'⟩, hrecord, ht⟩ := bind_eq_ok.1 h
  obtain rfl := pure_eq_ok.1 ht
  -- the id is either found or declared, and the chronicle notes the declaration
  obtain ⟨found, hfound, hid⟩ := bind_eq_ok.1 hid
  obtain ⟨declared, hfindOr, hdeclared⟩ := notes_findOr { n with taken }
    (.declareVariable contract (.text write.key)) rfl rfl hid
  obtain ⟨hmake, hrecorded⟩ := make_of_written ⟨{ taken with store }, n.calls ++ declared⟩
    (.recordVariableInstance id taken.block execution (.bytes write.value)) rfl rfl hrecord
  have hadds := hdeclared.trans hrecorded
  rw [Ingestion.store_of_contract hcontract] at hadds
  refine ⟨_, ?_, hadds⟩
  rw [writeVariable, hwriter, ok_bind, hcontract, ok_bind]
  simp only [hfound, ok_bind, hfindOr, hmake, List.append_assoc]
  rfl

/-- A key of a map is written by one call or, where the map is declared first, by two. -/
lemma notes_writeMap {write : MapWrite} (h : n.taken.writeMap write = .ok t') :
    Notes (n.writeMap write) n t' := by
  obtain ⟨⟨contract, taken⟩, hcontract, h⟩ := bind_eq_ok.1 h
  obtain ⟨⟨id, store⟩, hid, h⟩ := bind_eq_ok.1 h
  obtain ⟨⟨answer, store'⟩, hput, ht⟩ := bind_eq_ok.1 h
  obtain rfl := pure_eq_ok.1 ht
  obtain ⟨found, hfound, hid⟩ := bind_eq_ok.1 hid
  obtain ⟨declared, hfindOr, hdeclared⟩ := notes_findOr { n with taken }
    (.declareMap contract (.text write.name)) rfl rfl hid
  obtain ⟨hmake, hentered⟩ := make_of_written ⟨{ taken with store }, n.calls ++ declared⟩
    (.putMapEntry id taken.block (.bytes write.keyHash) (.bytes write.value)) rfl rfl hput
  have hadds := hdeclared.trans hentered
  rw [Ingestion.store_of_contract hcontract] at hadds
  refine ⟨_, ?_, hadds⟩
  rw [writeMap, hcontract, ok_bind]
  simp only [hfound, ok_bind, hfindOr, hmake, List.append_assoc]
  rfl

/-- What is noted of two parts in a row is noted of both together. -/
lemma Notes.bind {note : Except Error Noted} {next : Noted → Except Error Noted} (h : Notes note n t)
    (hnext : ∀ calls, Notes (next ⟨t, calls⟩) ⟨t, calls⟩ t') : Notes (note >>= next) n t' := by
  obtain ⟨calls, hnote, hadds⟩ := h
  obtain ⟨calls', hnotes, hadds'⟩ := hnext (n.calls ++ calls)
  exact ⟨calls ++ calls', by rw [hnote, ok_bind, hnotes, List.append_assoc], hadds.trans hadds'⟩

/-- The parts of one kind, one after the other. -/
lemma notes_foldlM {γ : Type} {apply : Ingestion → γ → Except Error Ingestion}
    {note : Noted → γ → Except Error Noted}
    (hpart : ∀ {n part t'}, apply n.taken part = .ok t' → Notes (note n part) n t') {parts : List γ}
    (h : parts.foldlM apply n.taken = .ok t') : Notes (parts.foldlM note n) n t' := by
  induction parts generalizing n with
  | nil =>
    obtain rfl := pure_eq_ok.1 h
    exact ⟨[], by rw [List.append_nil]; rfl, .refl _⟩
  | cons part rest ih =>
    rw [List.foldlM_cons] at h
    obtain ⟨t₁, hfirst, hrest⟩ := bind_eq_ok.1 h
    rw [List.foldlM_cons]
    exact (hpart hfirst).bind fun calls => ih (n := ⟨t₁, calls⟩) hrest

/-- The calls that are noted for an accepted payload lead to the store that it leaves. -/
lemma ofPayload_of_ok {s s' : Store} {payload : BlockPayload} {block : Int}
    (h : s.applyPayload payload = .ok (block, s')) :
    ∃ n, ofPayload s payload = .ok n ∧ Adds s n.calls s' := by
  simp only [Store.applyPayload, bind_eq_ok, pure_eq_ok] at h
  obtain ⟨environment, hresolve, ⟨recorded, store⟩, hblock, t₁, hentries, t₂, hcontracts, t₃,
    hexecutions, t₄, hvars, t₅, hmaps, hr⟩ := h
  obtain ⟨rfl, rfl⟩ := Prod.mk.inj hr
  obtain ⟨hmake, hrecorded⟩ := make_of_written { taken := { store := s, environment, block := 0 } }
    (.recordBlock environment.id (.int payload.height) (.bytes payload.indexHash)
      (.bytes payload.trieRoot)) rfl rfl hblock
  let start : Noted := ⟨{ store, environment, block := recorded }, [⟨.recordBlock environment.id
    (.int payload.height) (.bytes payload.indexHash) (.bytes payload.trieRoot), .int recorded⟩]⟩
  -- the five lists of the payload, each from what the last one left
  have hparts : Notes (do
      let n ← payload.entries.foldlM writeEntry start
      let n ← payload.contracts.foldlM deploy n
      let n ← payload.executions.foldlM invoke n
      let n ← payload.varWrites.foldlM writeVariable n
      payload.mapWrites.foldlM writeMap n) start t₅ := by
    refine (notes_foldlM (n := start) notes_writeEntry hentries).bind fun calls₁ => ?_
    refine (notes_foldlM (n := ⟨t₁, calls₁⟩) notes_deploy hcontracts).bind fun calls₂ => ?_
    refine (notes_foldlM (n := ⟨t₂, calls₂⟩) notes_invoke hexecutions).bind fun calls₃ => ?_
    refine (notes_foldlM (n := ⟨t₃, calls₃⟩) notes_writeVariable hvars).bind fun calls₄ => ?_
    exact notes_foldlM (n := ⟨t₄, calls₄⟩) notes_writeMap hmaps
  obtain ⟨calls, hnotes, hadds⟩ := hparts
  refine ⟨⟨t₅, start.calls ++ calls⟩, ?_, hrecorded.trans hadds⟩
  rw [ofPayload, hresolve, ok_bind, hmake]
  exact hnotes

end Noted

/-- The single calls that an accepted call consists of: those of its payload, or the call itself.  A
call that is refused has none. -/
def Call.accepted (s : Store) (c : Call) : List Accepted :=
  match c.run s with
  | .error _ => []
  | .ok (answer, _) =>
    match c with
    | .applyBlock raw =>
      match BlockPayload.ofValue raw >>= Noted.ofPayload s with
      | .ok n => n.calls
      | .error _ => []
    | c => [⟨c, answer⟩]

namespace Call

variable {s s' : Store} {answer : Json}

/-- A call that is refused is not noted. -/
lemma accepted_of_error {c : Call} {e : Error} (h : c.run s = .error e) : c.accepted s = [] := by
  rw [accepted, h]

/-- A single call that is accepted is noted with its answer. -/
lemma accepted_of_single {c : Call} (hsingle : c.isSingle) (h : c.run s = .ok (answer, s')) :
    c.accepted s = [⟨c, answer⟩] := by
  rw [accepted, h]
  cases c with
  | applyBlock raw => cases hsingle
  | _ => rfl

/-- An accepted payload adds rows, by its single calls. -/
lemma adds_accepted {raw : Value} (h : (applyBlock raw).run s = .ok (answer, s')) :
    Adds s ((applyBlock raw).accepted s) s' := by
  obtain ⟨block, happly⟩ := written_eq_ok h
  obtain ⟨payload, hpayload, happly⟩ := bind_eq_ok.1 happly
  obtain ⟨n, hn, hadds⟩ := Noted.ofPayload_of_ok happly
  have haccepted : (applyBlock raw).accepted s = n.calls := by
    simp only [accepted, h, hpayload, ok_bind, hn]
  rwa [haccepted]

/-- The single calls of an accepted call lead to the store that it leaves. -/
lemma performs_accepted {c : Call} (h : c.run s = .ok (answer, s')) :
    Performs s (c.accepted s) s' := by
  cases hsingle : c.isSingle with
  | true =>
    rw [accepted_of_single hsingle h]
    exact .single hsingle h
  | false =>
    cases c with
    | applyBlock raw => exact (adds_accepted h).performs
    | _ => cases hsingle

end Call

/-- The single calls that calls one after the other consist of. -/
def Call.acceptedAll (db : Database) : List Call → List Accepted
  | [] => []
  | c :: rest => c.accepted db.tables ++ acceptedAll (c.script.run db).2 rest

/-! ## Chronicles of databases -/

namespace Database

/-- The accepted calls behind the tables of a database, and those behind the tables at the start of
every open scope, the innermost scope first. -/
inductive Chronicle : Database → List Accepted → List (List Accepted) → Prop
  | new (persistent : Bool) : Chronicle { persistent } [] []
  | call {db : Database} {log : List Accepted} {saved : List (List Accepted)} (c : Call) :
    Chronicle db log saved → Chronicle (c.script.run db).2 (log ++ c.accepted db.tables) saved
  | openScope {db : Database} {log : List Accepted} {saved : List (List Accepted)} :
    Chronicle db log saved → Chronicle db.openScope log (log :: saved)
  | commit {db : Database} {log : List Accepted} {saved : List (List Accepted)} :
    Chronicle db log saved → Chronicle db.commit log saved.tail
  | rollBack {db : Database} {log : List Accepted} {saved : List (List Accepted)} :
    Chronicle db log saved → Chronicle db.rollBack (saved.headD log) saved.tail
  | reopen {db : Database} {log : List Accepted} {saved : List (List Accepted)} :
    Chronicle db log saved →
      Chronicle db.reopen (if db.persistent then saved.getLastD log else []) []

variable {db : Database} {log : List Accepted} {saved : List (List Accepted)}

/-- A database with a chronicle has been reached by calls and scopes. -/
lemma Chronicle.reachable (h : db.Chronicle log saved) : db.Reachable := by
  induction h with
  | new persistent => exact .new persistent
  | call c _ ih => exact ih.call c
  | openScope _ ih => exact ih.openScope
  | commit _ ih => exact ih.commit
  | rollBack _ ih => exact ih.rollBack
  | reopen _ ih => exact ih.reopen

/-- Every run of a database can be chronicled. -/
lemma Reachable.exists_chronicle (h : db.Reachable) : ∃ log saved, db.Chronicle log saved := by
  induction h with
  | new persistent => exact ⟨_, _, .new persistent⟩
  | call c _ ih =>
    obtain ⟨log, saved, ih⟩ := ih
    exact ⟨_, _, ih.call c⟩
  | openScope _ ih =>
    obtain ⟨log, saved, ih⟩ := ih
    exact ⟨_, _, ih.openScope⟩
  | commit _ ih =>
    obtain ⟨log, saved, ih⟩ := ih
    exact ⟨_, _, ih.commit⟩
  | rollBack _ ih =>
    obtain ⟨log, saved, ih⟩ := ih
    exact ⟨_, _, ih.rollBack⟩
  | reopen _ ih =>
    obtain ⟨log, saved, ih⟩ := ih
    exact ⟨_, _, ih.reopen⟩

/-- Calls outside any step extend a chronicle by what is accepted of them. -/
lemma Chronicle.calls (h : db.Chronicle log saved) (calls : List Call) :
    (Step.runAll db (calls.map .call)).2.Chronicle (log ++ Call.acceptedAll db calls) saved := by
  induction calls generalizing db log with
  | nil =>
    rw [Call.acceptedAll, List.append_nil]
    exact h
  | cons c rest ih =>
    rw [Call.acceptedAll, ← List.append_assoc, ← Step.snd_run_call]
    exact ih (Step.snd_run_call db c ▸ h.call c)

/-- What stands behind the outermost scope, or behind the tables if no scope is open. -/
lemma performs_getLastD {s : Store} {stores : List Store}
    (h : Performs .empty log s) (hsaved : List.Forall₂ (Performs .empty) saved stores) :
    Performs .empty (saved.getLastD log) (stores.getLastD s) := by
  induction hsaved generalizing log s with
  | nil => exact h
  | cons hfirst _ ih =>
    rw [List.getLastD_cons, List.getLastD_cons]
    exact ih hfirst

/-- The calls of a chronicle lead from an empty store to the tables, and those behind an open scope
to the tables at its start. -/
theorem Chronicle.performs (h : db.Chronicle log saved) :
    Performs .empty log db.tables ∧ List.Forall₂ (Performs .empty) saved db.saved := by
  induction h with
  | new persistent => exact ⟨.nil, .nil⟩
  | @call db log saved c _ ih =>
    rcases c.script_cases db with ⟨answer, tables, hrun, hscript⟩ | ⟨e, hrun, hscript⟩
    · rw [hscript]
      exact ⟨ih.1.trans (Call.performs_accepted hrun), ih.2⟩
    · rw [hscript, Call.accepted_of_error hrun, List.append_nil]
      exact ih
  | openScope _ ih => exact ⟨ih.1, .cons ih.1 ih.2⟩
  | @commit db log saved _ ih =>
    refine ⟨ih.1, ?_⟩
    -- a commit forgets the store that the scope had saved, and its log with it
    show List.Forall₂ _ saved.tail db.saved.tail
    generalize db.saved = stores at ih
    cases ih.2 with
    | nil => exact .nil
    | cons _ hrest => exact hrest
  | @rollBack db log saved _ ih =>
    unfold Database.rollBack
    cases hsaved : db.saved with
    | nil =>
      rw [hsaved] at ih
      cases ih.2
      exact ⟨ih.1, by rw [hsaved]; exact .nil⟩
    | cons tables stores =>
      rw [hsaved] at ih
      cases ih.2 with
      | cons hfirst hrest => exact ⟨hfirst, hrest⟩
  | @reopen db log saved _ ih =>
    refine ⟨?_, .nil⟩
    unfold Database.reopen
    by_cases hp : db.persistent
    · rw [if_pos hp]
      simp only [if_pos hp]
      exact performs_getLastD ih.1 ih.2
    · simp only [if_neg hp]
      exact .nil

end Database

end ReplayLedger
