import ReplayLedger.Proofs.Journal
import ReplayLedger.Proofs.Ownership

/-!
# What feeds make of histories

A store that is fed with whole blocks changes the history of an environment in few ways: a feed
leaves it as it is, empties it by dropping the environment, or has it accept one payload
(`Store.Consistent.fed`).  A property of histories that accepted payloads keep therefore holds of all
histories after any feeds (`Store.forall_history_of_feeds`).
-/

namespace ReplayLedger

/-- Feeds at top level do to the tables what their calls do to a store. -/
lemma Step.tables_runAll_feeds (feeds : List Feed) (db : Database) :
    (Step.runAll db (feeds.map fun feed => .call feed.call)).2.tables =
      (feeds.map Feed.call).foldl Store.after db.tables := by
  rw [← Step.tables_runAll_calls, List.map_map]
  rfl

namespace Store

variable {s s' : Store} {environment : Int}

/-- An accepted call leaves what it has made. -/
lemma after_of_ok {c : Call} {answer : Json} (h : c.run s = .ok (answer, s')) : s.after c = s' := by
  rw [after, h]

/-- A call that is refused leaves the store as it was. -/
lemma after_of_error {c : Call} {e : Error} (h : c.run s = .error e) : s.after c = s := by
  rw [after, h]

/-- What a call leaves is reachable, accepted or not. -/
lemma Reachable.after (hs : s.Reachable) (c : Call) : (s.after c).Reachable := by
  cases hrun : c.run s with
  | ok r =>
    rw [after_of_ok hrun]
    exact hs.call c hrun
  | error e =>
    rw [after_of_error hrun]
    exact hs

/-- Calls lead from one reachable store to another, accepted or refused. -/
lemma Reachable.foldl_after (hs : s.Reachable) (calls : List Call) :
    (calls.foldl Store.after s).Reachable :=
  List.foldlRecOn calls Store.after hs fun _ h c _ => h.after c

/-- The histories that an environment can have after a feed. -/
inductive Fed (s : Store) (environment : Int) (feed : Feed) : History → Prop
  | unchanged : Fed s environment feed (s.history environment)
  | dropped (drops : feed = .drop environment) : Fed s environment feed {}
  | applied {payload : BlockPayload} {history : History}
    (accepted : (s.history environment).apply payload = .ok history) : Fed s environment feed history

namespace Consistent

/-- A new environment has an empty history, as it had before it existed. -/
lemma fed_create (hs : s.Consistent) {name kind path : Value} {id : Int}
    (h : s.createEnvironment name kind path = .ok (id, s')) :
    Fed s environment (.create name kind path) (s'.history environment) := by
  obtain ⟨row, -, -, hheight, -, rfl⟩ := exists_of_createEnvironment h
  rw [history_addEnvironment hs hheight]
  exact .unchanged

/-- A payload goes to one environment, whose history accepts it. -/
lemma fed_apply (hs : s.Consistent) {raw : Value} {id : Int} (h : s.applyBlock raw = .ok (id, s')) :
    Fed s environment (.apply raw) (s'.history environment) := by
  obtain ⟨payload, -, happly⟩ := bind_eq_ok.1 h
  obtain ⟨owner, hresolve, -⟩ := bind_eq_ok.1 happly
  have hagrees := hs.applyPayload_agrees hresolve
  rw [happly] at hagrees
  obtain ⟨history, haccepted, hgrows⟩ := hagrees.of_accepted
  by_cases hown : environment = owner.id
  · subst hown
    rw [hgrows.own]
    exact .applied haccepted
  · rw [hgrows.others environment hown]
    exact .unchanged

/-- Dropping an environment empties its history and leaves the others. -/
lemma fed_drop (hs : s.Consistent) {id : Int} {removed : RowCounts}
    (h : s.dropEnvironment id = .ok (removed, s')) :
    Fed s environment (.drop id) (s'.history environment) := by
  have hs' := hs.change (change_of_dropEnvironment h)
  obtain ⟨-, -, rfl⟩ := exists_of_dropEnvironment h
  by_cases hdropped : environment = id
  · subst hdropped
    rw [history_dropped hs']
    exact .dropped rfl
  · rw [history_drop hs hs' hdropped]
    exact .unchanged

/-- A feed leaves the history of an environment, empties it or has it accept a payload. -/
theorem fed (hs : s.Consistent) (environment : Int) (feed : Feed) :
    Fed s environment feed ((s.after feed.call).history environment) := by
  cases hrun : feed.call.run s with
  | error e =>
    rw [after_of_error hrun]
    exact .unchanged
  | ok r =>
    rw [after_of_ok hrun]
    cases feed with
    | create name kind path =>
      obtain ⟨id, hcreate⟩ := Call.written_eq_ok hrun
      exact hs.fed_create hcreate
    | apply raw =>
      obtain ⟨id, happly⟩ := Call.written_eq_ok hrun
      exact hs.fed_apply happly
    | drop id =>
      obtain ⟨⟨removed, rest⟩, hdrop, hr⟩ := bind_eq_ok.1 hrun
      rw [← (Prod.mk.inj (pure_eq_ok.1 hr)).2]
      exact hs.fed_drop hdrop

end Consistent

/-- What holds of the empty history and is kept by accepted payloads holds of all histories after any
feeds. -/
theorem forall_history_of_feeds {P : History → Prop} (hempty : P {})
    (haccepted : ∀ history payload history', P history → history.apply payload = .ok history' →
      P history') (feeds : List Feed) (environment : Int) :
    P (((feeds.map Feed.call).foldl after empty).history environment) := by
  -- for any store to start from, so that the induction on the feeds goes through
  suffices h : ∀ s : Store, s.Reachable → P (s.history environment) →
      P (((feeds.map Feed.call).foldl after s).history environment) by
    refine h empty .empty ?_
    rw [history_of_absent consistent_empty nofun]
    exact hempty
  induction feeds with
  | nil => exact fun _ _ h => h
  | cons feed rest ih =>
    intro s hs h
    refine ih (s.after feed.call) (hs.after feed.call) ?_
    generalize hresult : (s.after feed.call).history environment = history
    have hfed := hs.consistent.fed environment feed
    rw [hresult] at hfed
    cases hfed with
    | unchanged => exact h
    | dropped => exact hempty
    | applied haccepts => exact haccepted _ _ _ h haccepts

end Store

end ReplayLedger
