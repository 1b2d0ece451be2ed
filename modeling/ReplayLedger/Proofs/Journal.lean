import ReplayLedger.Proofs.Replay
import Mathlib.Logic.Function.Basic

/-!
# A store and its journal

A store that is fed with whole blocks only can be understood without its tables: what it knows of an
environment is the list of the payloads that the environment has accepted since it was created.  A
`Journal` is a store with these lists beside it.

Along every run the history of every environment is the one that its log leaves (`Journal.Faithful`),
so the log answers every read.
-/

namespace ReplayLedger

/-- Creates an environment, feeds a payload or drops an environment. -/
inductive Feed where
  | create (name kind path : Value)
  | apply (payload : Value)
  | drop (id : Int)

/-- The call that does it. -/
def Feed.call : Feed → Call
  | create name kind path => .createEnvironment name kind path
  | apply payload => .applyBlock payload
  | drop id => .dropEnvironment id

/-- A store, and for every environment the payloads it has accepted since it was created. -/
structure Journal where
  store : Store := .empty
  logs : Int → List BlockPayload := fun _ => []

namespace Journal

/-- Takes in a feed, if the store accepts it. -/
def step (j : Journal) : Feed → Except Error Journal
  | .create name kind path => do
    let (id, store) ← j.store.createEnvironment name kind path
    return ⟨store, Function.update j.logs id []⟩
  | .apply raw => do
    let payload ← BlockPayload.ofValue raw
    let owner ← j.store.resolve payload.environment
    let (_, store) ← j.store.applyPayload payload
    return ⟨store, Function.update j.logs owner.id (j.logs owner.id ++ [payload])⟩
  | .drop id => do
    let (_, store) ← j.store.dropEnvironment id
    return ⟨store, Function.update j.logs id []⟩

/-- The journal after a feed, which is as before if the feed is refused. -/
def after (j : Journal) (feed : Feed) : Journal :=
  match j.step feed with
  | .ok j' => j'
  | .error _ => j

/-- The journal after feeds, one after the other, starting with an empty store. -/
def run (feeds : List Feed) : Journal := feeds.foldl after {}

end Journal

/-! ## The store of a journal -/

/-- The tables after a call, which are as before if the call fails. -/
def Store.after (s : Store) (c : Call) : Store :=
  match c.run s with
  | .ok (_, s') => s'
  | .error _ => s

/-- A call outside any scope leaves the tables that it makes. -/
lemma Step.tables_run_call (db : Database) (c : Call) :
    (Step.run db (.call c)).2.tables = db.tables.after c := by
  rw [Step.run, c.script_eq_change, Store.after]
  cases hrun : c.run db.tables with
  | ok r =>
    rw [Script.run_change_of_ok hrun]
    rfl
  | error e =>
    rw [Script.run_change_of_error hrun]
    rfl

/-- Calls at top level do to the tables what they do to a store. -/
lemma Step.tables_runAll_calls (calls : List Call) : ∀ db : Database,
    (Step.runAll db (calls.map .call)).2.tables = calls.foldl Store.after db.tables := by
  induction calls with
  | nil => exact fun db => by rw [List.map_nil, Step.runAll]; rfl
  | cons c rest ih =>
    intro db
    rw [List.map_cons, Step.runAll, List.foldl_cons, ← Step.tables_run_call, ← ih]

namespace Journal

variable {j j' : Journal}

/-- The store of a journal goes on as by the call itself. -/
lemma store_after (j : Journal) (feed : Feed) : (j.after feed).store = j.store.after feed.call := by
  cases feed with
  | create name kind path =>
    simp only [after, step, Store.after, Feed.call, Call.run, Call.written]
    cases j.store.createEnvironment name kind path <;> rfl
  | drop id =>
    simp only [after, step, Store.after, Feed.call, Call.run]
    cases j.store.dropEnvironment id <;> rfl
  | apply raw =>
    simp only [after, step, Store.after, Feed.call, Call.run, Call.written, Store.applyBlock]
    cases BlockPayload.ofValue raw with
    | error e => rfl
    | ok payload =>
      simp only [ok_bind]
      cases hresolve : j.store.resolve payload.environment with
      | error e =>
        rw [Store.applyPayload, hresolve]
        rfl
      | ok owner =>
        simp only [ok_bind]
        cases j.store.applyPayload payload <;> rfl

/-- The store of a journal goes along with its feeds. -/
lemma store_foldl_after (feeds : List Feed) : ∀ j : Journal,
    (feeds.foldl after j).store = (feeds.map Feed.call).foldl Store.after j.store := by
  induction feeds with
  | nil => exact fun j => rfl
  | cons feed rest ih =>
    intro j
    rw [List.foldl_cons, ih, store_after]
    rfl

/-! ## Faithful journals -/

/-- The history of every environment is the one that its log leaves, and the heights of the log
rise. -/
structure Faithful (j : Journal) : Prop where
  consistent : j.store.Consistent
  logs : ∀ row ∈ j.store.environments, j.store.history row.id = .ofLog (j.logs row.id) ∧
    ((j.logs row.id).map (·.height)).Pairwise (· < ·)

/-- A new environment has an empty log, and the others go on as they are. -/
lemma Faithful.create (h : j.Faithful) {name kind path : Value}
    (hstep : j.step (.create name kind path) = .ok j') : j'.Faithful := by
  obtain ⟨⟨id, store⟩, hcreate, hj⟩ := bind_eq_ok.1 hstep
  have hchange := h.consistent.change (Store.writes_of_createEnvironment hcreate).change
  obtain rfl := pure_eq_ok.1 hj
  obtain ⟨new, hid, -, hheight, rfl, rfl⟩ := Store.exists_of_createEnvironment hcreate
  have hnew : ∀ owner ∈ j.store.environments, owner.id ≠ new.id := by
    intro owner howner
    exact hid ▸ Int.ne_of_lt (lt_nextId (List.mem_map_of_mem howner))
  refine ⟨hchange, fun row hrow => ?_⟩
  dsimp only at hrow ⊢
  rw [Store.history_addEnvironment h.consistent hheight]
  rcases List.mem_append.1 hrow with hold | hlast
  · rw [Function.update_of_ne (hnew row hold)]
    exact h.logs row hold
  · obtain rfl := List.mem_singleton.1 hlast
    rw [Function.update_self]
    exact ⟨Store.history_of_absent h.consistent hnew, .nil⟩

/-- An accepted payload comes last in the log of its environment. -/
lemma Faithful.apply (h : j.Faithful) {raw : Value} (hstep : j.step (.apply raw) = .ok j') :
    j'.Faithful := by
  simp only [step, bind_eq_ok] at hstep
  obtain ⟨payload, -, owner, hresolve, ⟨block, store⟩, happly, hj⟩ := hstep
  obtain rfl := pure_eq_ok.1 hj
  have howner := h.consistent.mem_of_resolve hresolve
  obtain ⟨hhistory, hrise⟩ := h.logs owner howner
  have hagrees := h.consistent.applyPayload_agrees hresolve
  rw [happly, hhistory] at hagrees
  generalize hresult : (History.ofLog (j.logs owner.id)).apply payload = result at hagrees
  cases hagrees with
  | @ok _ history hgrows =>
    refine ⟨hgrows.consistent, fun row hrow => ?_⟩
    dsimp only at hrow ⊢
    -- the log of the owner grows by the payload, the others stay
    by_cases hown : row.id = owner.id
    · rw [hown, hgrows.own, Function.update_self, History.ofLog_concat]
      exact ⟨(History.eq_append_of_apply hresult).1, History.rise_of_apply hrise hresult⟩
    · have hmem : row.identity ∈ j.store.environments.map Environment.identity := by
        rw [← hgrows.identities]
        exact List.mem_map_of_mem hrow
      obtain ⟨old, hold, hsame⟩ := List.mem_map.1 hmem
      have hid : old.id = row.id := Environment.id_eq_of_identity hsame
      rw [Function.update_of_ne hown, hgrows.others _ hown, ← hid]
      exact h.logs old hold

/-- The environments that are not dropped go on as they are. -/
lemma Faithful.drop (h : j.Faithful) {id : Int} (hstep : j.step (.drop id) = .ok j') :
    j'.Faithful := by
  obtain ⟨⟨counts, store⟩, hdrop, hj⟩ := bind_eq_ok.1 hstep
  have hchange := h.consistent.change (Store.change_of_dropEnvironment hdrop)
  obtain rfl := pure_eq_ok.1 hj
  obtain ⟨-, -, rfl⟩ := Store.exists_of_dropEnvironment hdrop
  refine ⟨hchange, fun row hrow => ?_⟩
  obtain ⟨hold, hother⟩ : row ∈ j.store.environments ∧ row.id ≠ id := by
    rw [Store.deleteOwned_eq] at hrow
    simpa using hrow
  dsimp only
  rw [Function.update_of_ne hother, Store.history_drop h.consistent hchange hother]
  exact h.logs row hold

/-- A feed keeps a journal faithful, whether it is accepted or refused. -/
lemma Faithful.after (h : j.Faithful) (feed : Feed) : (j.after feed).Faithful := by
  unfold Journal.after
  cases hstep : j.step feed with
  | error e => exact h
  | ok j' =>
    cases feed with
    | create name kind path => exact h.create hstep
    | apply raw => exact h.apply hstep
    | drop id => exact h.drop hstep

/-- Every run leads to a faithful journal. -/
lemma faithful_run (feeds : List Feed) : (run feeds).Faithful := by
  have hempty : Faithful {} := ⟨Store.consistent_empty, nofun⟩
  exact List.foldlRecOn feeds Journal.after hempty fun _ h feed _ => h.after feed

/-- After any feeds, accepted or refused, all reads about a live environment are answered by the log of
the payloads that it has accepted since it was created. -/
theorem run_replays (feeds : List Feed) (persistent : Bool) :
    (Step.runAll { persistent } (feeds.map fun feed => .call feed.call)).2.tables =
        (run feeds).store ∧
      ∀ row ∈ (run feeds).store.environments,
        (run feeds).store.Replays row.id ((run feeds).logs row.id) := by
  constructor
  · have hcalls := Step.tables_runAll_calls (feeds.map Feed.call) { persistent }
    rw [List.map_map] at hcalls
    rw [run, store_foldl_after]
    exact hcalls
  · intro row hrow
    have hfaithful := faithful_run feeds
    obtain ⟨hhistory, hrise⟩ := hfaithful.logs row hrow
    have hlive := hfaithful.consistent.environment?_eq_some.2 ⟨hrow, rfl⟩
    exact hfaithful.consistent.replays hlive hhistory hrise

/-- A run in which an environment is dropped, another one takes its id, a payload is refused because
its height does not advance, and a variable is written twice in one block. -/
theorem run_replays_of_reused_id :
    let payload (environment : Value) (height : Int) (hash : UInt8) (deployed : List Value) : Value :=
      .record [("environment", environment), ("height", .int height), ("index_hash", .bytes [hash]),
        ("trie_root_hash", .bytes [hash]), ("contracts", .list deployed),
        ("executions", .list [.record [("contract", .text "c"), ("tx_id", .bytes [5])]]),
        ("variables", .list [
          .record [("contract", .text "c"), ("key", .text "k"), ("tx_id", .bytes [5]),
            ("value", .bytes [6])],
          .record [("contract", .text "c"), ("key", .text "k"), ("tx_id", .bytes [5]),
            ("value", .bytes [7])]])]
    let contract : Value := .record [("qualified_id", .text "c"), ("source", .bytes [])]
    let feeds : List Feed :=
      [.create (.text "a") (.int 1) (.text "/a"), .apply (payload (.text "a") 3 1 [contract]),
        .drop 1, .create (.text "b") (.int 2) (.text "/b"), .apply (payload (.int 1) 4 1 [contract]),
        .apply (payload (.text "b") 4 2 []), .apply (payload (.text "b") 9 2 [])]
    let row : Environment := ⟨1, "b", .wasm, "/b", some 9⟩
    row ∈ (run feeds).store.environments ∧
      ((run feeds).logs row.id).map (·.height) = [4, 9] ∧
      (run feeds).store.Replays row.id ((run feeds).logs row.id) := by
  intro payload contract feeds row
  have hrow : row ∈ (run feeds).store.environments := by decide +kernel
  exact ⟨hrow, by decide +kernel, (run_replays feeds false).2 row hrow⟩

end Journal

end ReplayLedger
