import ReplayLedger.Proofs.Ingestion

/-!
# What an environment owns

Environments own their rows through chains of references, and all environments share the tables and
their ids.  Still, what an environment owns is its own affair.  The rows that it owns stay, with
their ids and all their fields, until it is dropped, and a call that is not addressed to it leaves
them exactly as they are, the height that it has reached included.

`Table.rowsOf` are the rows of a table that an environment owns, told by their forms.  They are what
`Store.ownedBy` collects (`Store.Consistent.ownedBy_eq_rowsOf`), so what is known of forms in growing
stores and after drops carries over to rows.
-/

namespace ReplayLedger

/-! ## The rows of an environment, table by table -/

namespace Table

open Store

variable {α β : Type} {T : Table α β} {s s' : Store} {environment : Int}

/-- The rows of a table that an environment owns. -/
def rowsOf (T : Table α β) (s : Store) (environment : Int) : List α :=
  (T.rows s).filter fun row => (T.form? s row).any (·.1 = environment)

/-- An environment owns as many rows as contents. -/
lemma length_rowsOf : (T.rowsOf s environment).length = (T.view s environment).length := by
  unfold rowsOf view under
  induction T.rows s with
  | nil => rfl
  | cons row rest ih =>
    cases hform : T.form? s row with
    | none => simpa [List.filterMap_cons, hform] using ih
    | some x =>
      by_cases howner : x.1 = environment
      · simpa [List.filterMap_cons, hform, howner] using ih
      · simpa [List.filterMap_cons, hform, howner] using ih

/-- The rows of an environment stay where rows are appended. -/
lemma rowsOf_of_appended (environment : Int) (hs : s.Consistent) (h : Extends s s')
    (hrows : T.rows s <+: T.rows s') : T.rowsOf s environment <+: T.rowsOf s' environment := by
  have hsame : T.rowsOf s environment =
      (T.rows s).filter fun row => (T.form? s' row).any (·.1 = environment) := by
    apply List.filter_congr
    intro row hrow
    obtain ⟨x, hx⟩ := form?_isSome hs hrow
    rw [hx, T.form?_of_extends h hx]
  rw [hsame]
  exact hrows.filter _

/-- Where rows are appended and an environment has the same contents, it owns the same rows. -/
lemma rowsOf_eq_of_view (environment : Int) (hs : s.Consistent) (h : Extends s s')
    (hrows : T.rows s <+: T.rows s') (hview : T.view s' environment = T.view s environment) :
    T.rowsOf s' environment = T.rowsOf s environment := by
  refine ((rowsOf_of_appended environment hs h hrows).eq_of_length ?_).symm
  rw [length_rowsOf, length_rowsOf, hview]

/-- Dropping an environment leaves the rows of the others. -/
lemma rowsOf_drop {dropped : Int} (hs : s.Consistent) (hs' : (s.deleteOwned dropped).2.Consistent)
    (h : environment ≠ dropped) :
    T.rowsOf (s.deleteOwned dropped).2 environment = T.rowsOf s environment := by
  have hforms : T.rowsOf (s.deleteOwned dropped).2 environment =
      (T.rows (s.deleteOwned dropped).2).filter fun row =>
        (T.form? s row).any (·.1 = environment) := by
    apply List.filter_congr
    intro row hrow
    obtain ⟨x, hx⟩ := form?_isSome hs' hrow
    rw [hx, T.form?_of_extends hs.extends_drop hx]
  rw [hforms, T.rows_drop dropped hs, List.filter_filter]
  apply List.filter_congr
  intro row hrow
  obtain ⟨x, hx⟩ := form?_isSome hs hrow
  rw [hx]
  by_cases howner : x.1 = environment
  · simp [howner, h]
  · simp [howner]

/-- The rows that go with an environment are those that it owns. -/
lemma filter_eq_rowsOf (hs : s.Consistent) {p : α → Bool}
    (h : T.rows (s.deleteOwned environment).2 = (T.rows s).filter fun row => !p row) :
    (T.rows s).filter p = T.rowsOf s environment := by
  rw [T.rows_drop environment hs] at h
  apply List.filter_congr
  intro row hrow
  have hgoes : row ∈ (T.rows s).filter (fun row => !(T.form? s row).any (·.1 = environment)) ↔
      row ∈ (T.rows s).filter fun row => !p row := by
    rw [h]
  simp only [List.mem_filter, hrow, true_and, Bool.not_eq_true'] at hgoes
  rw [Bool.eq_iff_iff, ← not_iff_not, Bool.not_eq_true, Bool.not_eq_true]
  exact hgoes.symm

end Table

/-! ## The part of the store that an environment owns -/

namespace Store

variable {s s' : Store} {environment : Int}

/-- A store that is appended to is extended. -/
lemma Appends.extends (h : Appends s s') : Extends s s' :=
  ⟨h.blocks.find?_eq_some, h.contracts.find?_eq_some, h.executions.find?_eq_some,
    h.vars.find?_eq_some, h.maps.find?_eq_some⟩

/-- What an environment owns, by the forms of the rows. -/
lemma Consistent.ownedBy_eq_rowsOf (hs : s.Consistent) : s.ownedBy environment =
    { environments := s.environments.filter fun row => row.id = environment
      blocks := Table.blocks.rowsOf s environment
      entries := Table.entries.rowsOf s environment
      contracts := Table.contracts.rowsOf s environment
      executions := Table.executions.rowsOf s environment
      vars := Table.vars.rowsOf s environment
      instances := Table.instances.rowsOf s environment
      maps := Table.maps.rowsOf s environment
      mapEntries := Table.mapEntries.rowsOf s environment } := by
  exact Store.ext rfl (Table.blocks.filter_eq_rowsOf hs rfl) (Table.entries.filter_eq_rowsOf hs rfl)
    (Table.contracts.filter_eq_rowsOf hs rfl) (Table.executions.filter_eq_rowsOf hs rfl)
    (Table.vars.filter_eq_rowsOf hs rfl) (Table.instances.filter_eq_rowsOf hs rfl)
    (Table.maps.filter_eq_rowsOf hs rfl) (Table.mapEntries.filter_eq_rowsOf hs rfl)

/-- The rows that an environment owns stay where rows are appended. -/
lemma Appends.ownedBy (h : Appends s s') (hs : s.Consistent) (hs' : s'.Consistent) :
    Appends (s.ownedBy environment) (s'.ownedBy environment) := by
  have stays {α β : Type} {T : Table α β} := T.rowsOf_of_appended environment hs h.extends
  rw [hs.ownedBy_eq_rowsOf, hs'.ownedBy_eq_rowsOf]
  refine ⟨?_, stays h.blocks, stays h.entries, stays h.contracts, stays h.executions, stays h.vars,
    stays h.instances, stays h.maps, stays h.mapEntries⟩
  have hidentities (rows : List Environment) :
      (rows.filter fun row => row.id = environment).map Environment.identity =
        (rows.map Environment.identity).filter fun row => row.id = environment := by
    rw [List.filter_map]
    rfl
  simp only [hidentities]
  exact h.environments.filter _

/-- An environment is the only one with its id. -/
lemma Consistent.filter_environments (hs : s.Consistent) {owner : Environment}
    (howner : owner ∈ s.environments) :
    s.environments.filter (fun row => row.id = owner.id) = [owner] := by
  have hnodup := nodup_of_rise hs.ids.environments
  apply List.perm_singleton.1
  refine (List.perm_ext_iff_of_nodup (hnodup.of_map.filter _) (List.nodup_singleton _)).2 ?_
  intro row
  rw [List.mem_filter, List.mem_singleton, decide_eq_true_eq]
  constructor
  · rintro ⟨hrow, hid⟩
    exact List.inj_on_of_nodup_map hnodup hrow howner hid
  · rintro rfl
    exact ⟨howner, rfl⟩

/-- An environment stays where rows are appended, up to the height that it has reached. -/
lemma Appends.exists_environment (h : Appends s s') {owner : Environment}
    (howner : owner ∈ s.environments) :
    ∃ owner' ∈ s'.environments, owner'.identity = owner.identity := by
  have hmem : owner.identity ∈ s'.environments.map Environment.identity :=
    h.environments.subset (List.mem_map_of_mem howner)
  exact List.mem_map.1 hmem

/-- An environment stays where the rows that it owns stay. -/
lemma Appends.exists_owner {owner : Environment}
    (h : Appends (s.ownedBy owner.id) (s'.ownedBy owner.id)) (howner : owner ∈ s.environments) :
    ∃ owner' ∈ s'.environments, owner'.identity = owner.identity := by
  have hown : owner ∈ (s.ownedBy owner.id).environments :=
    List.mem_filter.2 ⟨howner, decide_eq_true rfl⟩
  obtain ⟨owner', hmem, hidentity⟩ := h.exists_environment hown
  exact ⟨owner', (List.mem_filter.1 hmem).1, hidentity⟩

/-- Where rows are appended and the history of an environment is the same, it owns the same. -/
lemma Appends.ownedBy_eq_of_history (h : Appends s s') (hs : s.Consistent) (hs' : s'.Consistent)
    {owner : Environment} (howner : owner ∈ s.environments)
    (hhistory : s'.history owner.id = s.history owner.id) :
    s'.ownedBy owner.id = s.ownedBy owner.id := by
  have same {α β : Type} {T : Table α β} := T.rowsOf_eq_of_view owner.id hs h.extends
  rw [hs.ownedBy_eq_rowsOf, hs'.ownedBy_eq_rowsOf]
  refine Store.ext ?_ (same h.blocks (congrArg History.blocks hhistory))
    (same h.entries (congrArg History.entries hhistory))
    (same h.contracts (congrArg History.contracts hhistory))
    (same h.executions (congrArg History.executions hhistory))
    (same h.vars (congrArg History.vars hhistory))
    (same h.instances (congrArg History.varWrites hhistory))
    (same h.maps (congrArg History.maps hhistory))
    (same h.mapEntries (congrArg History.mapWrites hhistory))
  obtain ⟨owner', howner', hidentity⟩ := h.exists_environment howner
  have hid : owner'.id = owner.id := Environment.id_eq_of_identity hidentity
  have hheight : owner'.maxHeight = owner.maxHeight := by
    have hreached := congrArg History.maxHeight hhistory
    simpa [history, hs.environment?_eq_some.2 ⟨howner, rfl⟩, hs'.environment?_eq_some.2 ⟨howner', hid⟩]
      using hreached
  have hsame : owner' = owner := by
    cases owner
    cases owner'
    simp_all [Environment.identity]
  show s'.environments.filter _ = s.environments.filter _
  rw [hs.filter_environments howner, ← hsame, hs'.filter_environments howner']

/-- Dropping an environment leaves what the others own. -/
lemma Consistent.ownedBy_drop {dropped : Int} (hs : s.Consistent)
    (hs' : (s.deleteOwned dropped).2.Consistent) (h : environment ≠ dropped) :
    (s.deleteOwned dropped).2.ownedBy environment = s.ownedBy environment := by
  have stays {α β : Type} {T : Table α β} := T.rowsOf_drop hs hs' h
  rw [hs.ownedBy_eq_rowsOf, hs'.ownedBy_eq_rowsOf]
  refine Store.ext ?_ stays stays stays stays stays stays stays stays
  show (List.filter _ _).filter _ = _
  rw [List.filter_filter]
  apply List.filter_congr
  intro row _
  by_cases hrow : row.id = environment
  · simp [hrow, h]
  · simp [hrow]

end Store

/-! ## Calls -/

namespace Store.Consistent

open Call

variable {s s' : Store} {owner : Environment}

/-- A payload for another environment leaves what an environment owns. -/
lemma ownedBy_applyBlock (hs : s.Consistent) (howner : owner ∈ s.environments) {raw : Value} {id : Int}
    (h : s.applyBlock raw = .ok (id, s')) (hother : ¬ AddressedTo s owner.id (.applyBlock raw)) :
    s'.ownedBy owner.id = s.ownedBy owner.id := by
  have happends := (additions_of_applyBlock h).appends
  simp only [applyBlock, bind_eq_ok] at h
  obtain ⟨payload, hpayload, happly⟩ := h
  obtain ⟨target, htarget, -⟩ := bind_eq_ok.1 happly
  have hne : owner.id ≠ target.id := fun hid => hother ⟨payload, target, hpayload, htarget, hid.symm⟩
  have hagrees := hs.applyPayload_agrees htarget
  rw [happly] at hagrees
  obtain ⟨history, -, hgrows⟩ := hagrees.of_accepted
  exact happends.ownedBy_eq_of_history hs hgrows.consistent howner (hgrows.others owner.id hne)

/-- A call that is not addressed to an environment leaves what it owns. -/
lemma ownedBy_run (hs : s.Consistent) (howner : owner ∈ s.environments) {c : Call} {answer : Json}
    (h : c.run s = .ok (answer, s')) (hother : ¬ c.AddressedTo s owner.id) :
    s'.ownedBy owner.id = s.ownedBy owner.id := by
  cases effect_of_run h with
  | create hwrites =>
    have hold : owner.id < nextId (s.environments.map (·.id)) :=
      lt_nextId (List.mem_map_of_mem howner)
    exact hwrites.frame (Int.ne_of_lt hold)
  | drop hdrop =>
    have hs' := hs.change (change_of_dropEnvironment hdrop)
    obtain ⟨-, -, rfl⟩ := exists_of_dropEnvironment hdrop
    exact hs.ownedBy_drop hs' (Ne.symm hother)
  | apply happly => exact hs.ownedBy_applyBlock howner happly hother
  | write hwrites => exact hwrites.frame hother
  | read => rfl

/-- The rows that an environment owns stay until it is dropped. -/
lemma appends_ownedBy_run (hs : s.Consistent) {environment : Int} {c : Call} {answer : Json}
    (h : c.run s = .ok (answer, s')) (hkeep : c ≠ .dropEnvironment environment) :
    Appends (s.ownedBy environment) (s'.ownedBy environment) := by
  have hs' : s'.Consistent :=
    keep_of_changes (fun hchange hs => hs.change hchange) (changes_of_run h) hs
  cases effect_of_run h with
  | create hwrites => exact hwrites.appends.ownedBy hs hs'
  | drop hdrop =>
    obtain ⟨-, -, rfl⟩ := exists_of_dropEnvironment hdrop
    rw [hs.ownedBy_drop hs' fun hsame => hkeep (by rw [hsame])]
    exact .refl _
  | apply happly => exact (additions_of_applyBlock happly).appends.ownedBy hs hs'
  | write hwrites => exact hwrites.appends.ownedBy hs hs'
  | read => exact .refl _

end Store.Consistent

/-- On a database, too, the rows that an environment owns stay until it is dropped. -/
lemma Database.Reachable.appends_ownedBy {db : Database} (hdb : db.Reachable) {environment : Int}
    {c : Call} (hkeep : c ≠ .dropEnvironment environment) :
    Store.Appends (db.tables.ownedBy environment)
      ((c.script.run db).2.tables.ownedBy environment) := by
  rcases c.script_cases db with ⟨answer, tables, hrun, hscript⟩ | ⟨e, -, hscript⟩
  · rw [hscript]
    exact hdb.stores.1.consistent.appends_ownedBy_run hrun hkeep
  · rw [hscript]
    exact .refl _

/-- Every call but the one that drops an environment keeps the rows that the environment owns, with
their ids and all fields, up to the height that it has reached; it can only append to them.  A call
that is not addressed to the environment leaves all that it owns exactly as it is. -/
theorem Database.Reachable.owned_rows_stay {db : Database} (hdb : db.Reachable) {owner : Environment}
    (howner : owner ∈ db.tables.environments) {c : Call} (hkeep : c ≠ .dropEnvironment owner.id) :
    Store.Appends (db.tables.ownedBy owner.id) ((c.script.run db).2.tables.ownedBy owner.id) ∧
      (¬ c.AddressedTo db.tables owner.id →
        (c.script.run db).2.tables.ownedBy owner.id = db.tables.ownedBy owner.id) := by
  refine ⟨hdb.appends_ownedBy hkeep, fun hother => ?_⟩
  rcases c.script_cases db with ⟨answer, tables, hrun, hscript⟩ | ⟨e, -, hscript⟩
  · rw [hscript]
    exact hdb.stores.1.consistent.ownedBy_run howner hrun hother
  · rw [hscript]

/-- Two environments with rows in all tables.  A payload adds to what the first one owns; dropping the
second one, and a payload that is for the second one, leave it as it is. -/
theorem Database.owned_rows_stay_of_two :
    let payload (environment : String) (height : Int) (deployed : List Value) : Value :=
      .record [("environment", .text environment), ("height", .int height),
        ("index_hash", .bytes [height.toNat.toUInt8]), ("trie_root_hash", .bytes [2]),
        ("entries", .list [.record [("key_hash", .bytes [3]), ("value", .bytes [])]]),
        ("contracts", .list deployed),
        ("executions", .list [.record [("contract", .text "c"), ("tx_id", .bytes [5])]]),
        ("variables", .list [.record [("contract", .text "c"), ("key", .text "k"),
          ("tx_id", .bytes [5]), ("value", .bytes [6])]]),
        ("maps", .list [.record [("contract", .text "c"), ("name", .text "m"),
          ("key_hash", .bytes [7]), ("value", .bytes [8])]])]
    let contract : Value := .record [("qualified_id", .text "c"), ("source", .bytes [])]
    let steps : List Step :=
      [.call (.createEnvironment (.text "a") (.int 1) (.text "/a")),
        .call (.createEnvironment (.text "b") (.int 2) (.text "/b")),
        .call (.applyBlock (payload "b" 4 [contract])), .call (.applyBlock (payload "a" 4 [contract]))]
    let db := (Step.runAll {} steps).2
    let after (c : Call) : Store := (c.script.run db).2.tables.ownedBy 1
    (db.tables.ownedBy 1).rowCounts = ⟨1, 1, 1, 1, 1, 1, 1, 1, 1⟩ ∧
      (after (.applyBlock (payload "a" 9 []))).rowCounts = ⟨1, 2, 2, 1, 2, 1, 2, 1, 2⟩ ∧
      Store.Appends (db.tables.ownedBy 1) (after (.applyBlock (payload "a" 9 []))) ∧
      after (.dropEnvironment 2) = db.tables.ownedBy 1 ∧
      after (.applyBlock (payload "b" 9 [])) = db.tables.ownedBy 1 := by
  intro payload contract steps db after
  have hdb : db.Reachable := Step.reachable_runAll (.new false) steps (by decide)
  have howner : (⟨1, "a", .interpreter, "/a", some 4⟩ : Environment) ∈ db.tables.environments := by
    decide +kernel
  have hother : ¬ Call.AddressedTo db.tables 1 (.applyBlock (payload "b" 9 [])) := by
    rintro ⟨checked, target, hchecked, htarget, hid⟩
    have hresolve : (BlockPayload.ofValue (payload "b" 9 []) >>= fun checked =>
        db.tables.resolve checked.environment) = .ok ⟨2, "b", .wasm, "/b", some 4⟩ := by
      decide +kernel
    rw [hchecked, ok_bind, htarget] at hresolve
    rw [Except.ok.inj hresolve] at hid
    cases hid
  have happends := hdb.owned_rows_stay howner (c := .applyBlock (payload "a" 9 [])) nofun
  have hdropped := hdb.owned_rows_stay howner (c := .dropEnvironment 2) (by simp)
  have happlied := hdb.owned_rows_stay howner (c := .applyBlock (payload "b" 9 [])) nofun
  exact ⟨by decide +kernel, by decide +kernel, happends.1, hdropped.2 (by simp [Call.AddressedTo]),
    happlied.2 hother⟩

end ReplayLedger
