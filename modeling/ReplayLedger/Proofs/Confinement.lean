import ReplayLedger.Proofs.Removal
import ReplayLedger.Proofs.Watermark

/-!
# Work that is confined to one environment

Steps stay within an environment if no write among them is addressed to another one
(`Step.StaysWithin`).  However many of them fail or are undone, they leave what all the others own as
it is (`Database.ApartFrom`).

A consistent store is nothing but what its environments own, in the order of ids
(`Store.Consistent.ext_of_ownedBy`).  So where an environment was created, filled and dropped again,
the tables are those from before, row for row; and since the next id of a table is told by its rows,
the ids that were used in between are given again.
-/

namespace ReplayLedger

/-- Two lists along which ids rise are equal if they have the same rows. -/
lemma eq_of_rise {α : Type} {key : α → Int} {rows rows' : List α}
    (h : (rows.map key).Pairwise (· < ·)) (h' : (rows'.map key).Pairwise (· < ·))
    (hmem : ∀ row, row ∈ rows ↔ row ∈ rows') : rows = rows' := by
  have hperm : rows.Perm rows' :=
    (List.perm_ext_iff_of_nodup (nodup_of_rise h).of_map (nodup_of_rise h').of_map).2 hmem
  have hasymm : ∀ a b, a ∈ rows → b ∈ rows' → key a < key b → key b < key a → a = b :=
    fun a b _ _ hlt hgt => absurd hgt (Int.lt_asymm hlt)
  exact hperm.eq_of_pairwise hasymm (List.pairwise_map.1 h) (List.pairwise_map.1 h')

namespace Store

variable {s s' : Store} {environment : Int}

/-! ## A store is what its environments own -/

/-- Every row is owned by some environment that exists. -/
lemma Consistent.exists_owner (hs : s.Consistent) {row : Row} (hrow : s.HasRow row) :
    ∃ owner ∈ s.environments, (s.ownedBy owner.id).HasRow row := by
  have howned {α β : Type} (T : Table α β) {row : α} (hrow : row ∈ T.rows s) :
      ∃ owner ∈ s.environments, row ∈ T.rowsOf s owner.id := by
    obtain ⟨owner, howner, b, hform⟩ := T.owned hs row hrow
    refine ⟨owner, howner, List.mem_filter.2 ⟨hrow, ?_⟩⟩
    simp [hform]
  simp only [hs.ownedBy_eq_rowsOf]
  cases row with
  | environment row => exact ⟨row, hrow, List.mem_filter.2 ⟨hrow, decide_eq_true rfl⟩⟩
  | block row => exact howned .blocks hrow
  | entry row => exact howned .entries hrow
  | contract row => exact howned .contracts hrow
  | execution row => exact howned .executions hrow
  | var row => exact howned .vars hrow
  | written row => exact howned .instances hrow
  | map row => exact howned .maps hrow
  | mapEntry row => exact howned .mapEntries hrow

/-- Consistent stores with the same rows are equal. -/
lemma Consistent.ext_of_hasRow (hs : s.Consistent) (hs' : s'.Consistent)
    (h : ∀ row, s.HasRow row ↔ s'.HasRow row) : s = s' :=
  Store.ext (eq_of_rise hs.ids.environments hs'.ids.environments fun row => h (.environment row))
    (eq_of_rise hs.ids.blocks hs'.ids.blocks fun row => h (.block row))
    (eq_of_rise hs.ids.entries hs'.ids.entries fun row => h (.entry row))
    (eq_of_rise hs.ids.contracts hs'.ids.contracts fun row => h (.contract row))
    (eq_of_rise hs.ids.executions hs'.ids.executions fun row => h (.execution row))
    (eq_of_rise hs.ids.vars hs'.ids.vars fun row => h (.var row))
    (eq_of_rise hs.ids.instances hs'.ids.instances fun row => h (.written row))
    (eq_of_rise hs.ids.maps hs'.ids.maps fun row => h (.map row))
    (eq_of_rise hs.ids.mapEntries hs'.ids.mapEntries fun row => h (.mapEntry row))

/-- Consistent stores in which every environment owns the same are equal. -/
lemma Consistent.ext_of_ownedBy (hs : s.Consistent) (hs' : s'.Consistent)
    (h : ∀ environment, s.ownedBy environment = s'.ownedBy environment) : s = s' := by
  refine hs.ext_of_hasRow hs' fun row => ⟨fun hrow => ?_, fun hrow => ?_⟩
  · obtain ⟨owner, -, howned⟩ := hs.exists_owner hrow
    rw [h] at howned
    exact hasRow_of_ownedBy howned
  · obtain ⟨owner, -, howned⟩ := hs'.exists_owner hrow
    rw [← h] at howned
    exact hasRow_of_ownedBy howned

/-- An environment that does not exist owns nothing. -/
lemma Consistent.ownedBy_of_absent (hs : s.Consistent)
    (h : ∀ owner ∈ s.environments, owner.id ≠ environment) : s.ownedBy environment = {} := by
  have hnone {α β : Type} {T : Table α β} : T.rowsOf s environment = [] := by
    apply List.eq_nil_of_length_eq_zero
    rw [Table.length_rowsOf, Table.view_eq_nil hs h, List.length_nil]
  rw [hs.ownedBy_eq_rowsOf]
  refine Store.ext (List.filter_eq_nil_iff.2 ?_) hnone hnone hnone hnone hnone hnone hnone hnone
  intro owner howner
  simpa using h owner howner

end Store

/-! ## Confined calls -/

/-- A call that creates no environment and is addressed to no other one than the given. -/
def Call.Confined (s : Store) (environment : Int) (c : Call) : Prop :=
  (∀ name kind path, c ≠ .createEnvironment name kind path) ∧
    ∀ other, c.AddressedTo s other → other = environment

namespace Store.Consistent

variable {s s' : Store}

/-- A payload brings forth no environment. -/
lemma absent_of_applyBlock (hs : s.Consistent) {raw : Value} {id : Int}
    (h : s.applyBlock raw = .ok (id, s')) {other : Int}
    (habsent : ∀ owner ∈ s.environments, owner.id ≠ other) :
    s'.Consistent ∧ ∀ owner ∈ s'.environments, owner.id ≠ other := by
  simp only [applyBlock, bind_eq_ok] at h
  obtain ⟨payload, -, happly⟩ := h
  obtain ⟨target, htarget, -⟩ := bind_eq_ok.1 happly
  have hagrees := hs.applyPayload_agrees htarget
  rw [happly] at hagrees
  obtain ⟨history, -, hgrows⟩ := hagrees.of_accepted
  refine ⟨hgrows.consistent, fun owner howner hid => ?_⟩
  have hidentity : owner.identity ∈ s.environments.map Environment.identity := by
    rw [← hgrows.identities]
    exact List.mem_map_of_mem howner
  obtain ⟨before, hbefore, hsame⟩ := List.mem_map.1 hidentity
  exact habsent before hbefore ((Environment.id_eq_of_identity hsame).trans hid)

/-- A confined call leaves what the other environments own. -/
lemma ownedBy_run_of_confined (hs : s.Consistent) {environment other : Int} {c : Call}
    (hconfined : c.Confined s environment) {answer : Json} (h : c.run s = .ok (answer, s'))
    (hother : other ≠ environment) : s'.ownedBy other = s.ownedBy other := by
  have hunaddressed : ¬ c.AddressedTo s other :=
    fun haddressed => hother (hconfined.2 other haddressed)
  by_cases hexists : ∃ owner ∈ s.environments, owner.id = other
  · obtain ⟨owner, howner, rfl⟩ := hexists
    exact hs.ownedBy_run howner h hunaddressed
  -- one that does not exist owns nothing afterwards either
  have habsent : ∀ owner ∈ s.environments, owner.id ≠ other :=
    fun owner howner hid => hexists ⟨owner, howner, hid⟩
  cases Call.effect_of_run h with
  | create _ => exact absurd rfl (hconfined.1 _ _ _)
  | drop hdrop =>
    have hs' := hs.change (change_of_dropEnvironment hdrop)
    obtain ⟨-, -, rfl⟩ := exists_of_dropEnvironment hdrop
    exact hs.ownedBy_drop hs' (Ne.symm hunaddressed)
  | apply happly =>
    obtain ⟨hs', habsent'⟩ := hs.absent_of_applyBlock happly habsent
    rw [hs'.ownedBy_of_absent habsent', hs.ownedBy_of_absent habsent]
  | write hwrites => exact hwrites.frame hunaddressed
  | read => rfl

end Store.Consistent

/-! ## Confined steps -/

/-- Two databases that differ at most in what one environment owns. -/
structure Database.ApartFrom (environment : Int) (db db' : Database) : Prop where
  saved : db'.saved = db.saved
  persistent : db'.persistent = db.persistent
  others : ∀ other, other ≠ environment → db'.tables.ownedBy other = db.tables.ownedBy other

namespace Database

variable {db db' db'' : Database} {environment : Int}

lemma ApartFrom.refl : ApartFrom environment db db := ⟨rfl, rfl, fun _ _ => rfl⟩

/-- What is apart from an environment twice is apart from it. -/
lemma ApartFrom.trans (h : ApartFrom environment db db') (h' : ApartFrom environment db' db'') :
    ApartFrom environment db db'' :=
  ⟨h'.saved.trans h.saved, h'.persistent.trans h.persistent,
    fun other hother => (h'.others other hother).trans (h.others other hother)⟩

/-- What is done in a scope that is kept. -/
lemma ApartFrom.commit (h : ApartFrom environment db.openScope db') :
    ApartFrom environment db db'.commit := by
  refine ⟨?_, h.persistent, h.others⟩
  show db'.saved.tail = db.saved
  rw [h.saved]
  rfl

/-- What is done in a scope that is undone. -/
lemma ApartFrom.rollBack (h : ApartFrom environment db.openScope db') : db'.rollBack = db := by
  have hsaved : db'.saved = db.tables :: db.saved := h.saved
  have hpersistent : db'.persistent = db.persistent := h.persistent
  unfold Database.rollBack
  rw [hsaved, hpersistent]

/-- Databases that differ at most in what one environment owns, and do not differ there, are
equal. -/
lemma ApartFrom.eq (h : ApartFrom environment db db') (hdb : db.Reachable) (hdb' : db'.Reachable)
    (hown : db'.tables.ownedBy environment = db.tables.ownedBy environment) : db' = db := by
  have htables : db'.tables = db.tables := by
    refine hdb'.stores.1.consistent.ext_of_ownedBy hdb.stores.1.consistent fun other => ?_
    by_cases hother : other = environment
    · rw [hother, hown]
    · exact h.others other hother
  obtain ⟨tables, saved, persistent⟩ := db
  obtain ⟨tables', saved', persistent'⟩ := db'
  obtain ⟨rfl⟩ := htables
  obtain ⟨rfl⟩ := h.saved
  obtain ⟨rfl⟩ := h.persistent
  rfl

/-- A call changes a database in no other way than it changes the store. -/
lemma ApartFrom.call {c : Call} (h : ∀ answer s', c.run db.tables = .ok (answer, s') →
      ∀ other, other ≠ environment → s'.ownedBy other = db.tables.ownedBy other) :
    ApartFrom environment db (c.script.run db).2 := by
  rcases c.script_cases db with ⟨answer, tables, hrun, hscript⟩ | ⟨e, -, hscript⟩
  · rw [hscript]
    exact ⟨rfl, rfl, h answer tables hrun⟩
  · rw [hscript]
    exact .refl

end Database

mutual

/-- A step that writes to no other environment than the given, and leaves the database open. -/
def Step.StaysWithin (environment : Int) (db : Database) : Step → Prop
  | .call c => c.Confined db.tables environment
  | .overwriteMaxHeight _ _ => False
  | .reopen => False
  | .transaction steps _ => StayWithin environment db.openScope steps
  | .writing _ steps => StayWithin environment db steps
  | _ => True

/-- Steps that write to no other environment than the given, each in the database that the earlier
ones leave. -/
def Step.StayWithin (environment : Int) (db : Database) : List Step → Prop
  | [] => True
  | step :: rest => step.StaysWithin environment db ∧ StayWithin environment (step.run db).2 rest

end

mutual

/-- A confined step leaves the tables to the store, and the database open. -/
lemma Step.StaysWithin.harmless {environment : Int} : ∀ {db : Database} {step : Step},
    step.StaysWithin environment db → step.isHarmless = true ∧ step.keepsOpen = true
  | _, .call _, _ => ⟨rfl, rfl⟩
  | _, .rowCounts, _ => ⟨rfl, rfl⟩
  | _, .tables, _ => ⟨rfl, rfl⟩
  | _, .describe _ _, _ => ⟨rfl, rfl⟩
  | _, .overwriteMaxHeight _ _, h => h.elim
  | _, .reopen, h => h.elim
  | _, .transaction _ _, h => Step.StayWithin.harmless h
  | _, .writing _ _, h => Step.StayWithin.harmless h

/-- Confined steps leave the tables to the store, and the database open. -/
lemma Step.StayWithin.harmless {environment : Int} : ∀ {db : Database} {steps : List Step},
    Step.StayWithin environment db steps → Step.areHarmless steps = true ∧ Step.keepOpen steps = true
  | _, [], _ => ⟨rfl, rfl⟩
  | _, step :: rest, h => by
    obtain ⟨hstep, hopen⟩ := Step.StaysWithin.harmless h.1
    obtain ⟨hrest, hrestOpen⟩ := Step.StayWithin.harmless h.2
    simp [Step.areHarmless, Step.keepOpen, hstep, hrest, hopen, hrestOpen]

end

mutual

/-- A confined step leaves what the other environments own. -/
lemma Step.apartFrom_run {environment : Int} {db : Database} (hdb : db.Reachable) :
    ∀ step : Step, step.StaysWithin environment db →
      Database.ApartFrom environment db (step.run db).2
  | .call c, h => by
    rw [Step.snd_run_call]
    exact .call fun answer s' hrun other hother =>
      hdb.stores.1.consistent.ownedBy_run_of_confined h hrun hother
  | .rowCounts, _ => .refl
  | .tables, _ => .refl
  | .describe table id, _ => by
    rw [Step.snd_run_describe]
    exact .refl
  | .overwriteMaxHeight _ _, h => h.elim
  | .reopen, h => h.elim
  | .transaction steps abort, h => by
    have hsteps := Step.apartFrom_runAll hdb.openScope steps h
    unfold Step.run
    cases abort with
    | true =>
      show Database.ApartFrom environment db (Step.runAll db.openScope steps).2.rollBack
      rw [hsteps.rollBack]
      exact .refl
    | false => exact hsteps.commit
  | .writing _ steps, h => Step.apartFrom_runAll hdb steps h

/-- Confined steps leave what the other environments own. -/
lemma Step.apartFrom_runAll {environment : Int} {db : Database} (hdb : db.Reachable) :
    ∀ steps : List Step, Step.StayWithin environment db steps →
      Database.ApartFrom environment db (Step.runAll db steps).2
  | [], _ => .refl
  | step :: rest, h => by
    have hdb' := Step.reachable_run hdb step h.1.harmless.1
    exact (Step.apartFrom_run hdb step h.1).trans (Step.apartFrom_runAll hdb' rest h.2)

end

/-! ## Create, fill and drop -/

namespace Database

variable {db : Database} {environment : Int}

/-- After it was dropped, or could not be because there was none, an environment owns nothing. -/
lemma Reachable.ownedBy_after_drop (hdb : db.Reachable) :
    ((Call.dropEnvironment environment).script.run db).2.tables.ownedBy environment = {} := by
  by_cases hexists : ∃ owner ∈ db.tables.environments, owner.id = environment
  · obtain ⟨owner, howner, rfl⟩ := hexists
    rw [hdb.run_dropEnvironment howner]
    exact Store.ownedBy_dropped
  · rcases (Call.dropEnvironment environment).script_cases db with
      ⟨answer, tables, hrun, -⟩ | ⟨e, -, hscript⟩
    · obtain ⟨⟨removed, rest⟩, hdrop, -⟩ := bind_eq_ok.1 hrun
      obtain ⟨owner, howner, -⟩ := Store.exists_of_dropEnvironment hdrop
      exact absurd ⟨owner, Store.mem_of_environment? howner⟩ hexists
    · rw [hscript]
      exact hdb.stores.1.consistent.ownedBy_of_absent fun owner howner hid =>
        hexists ⟨owner, howner, hid⟩

/-- An environment with a valid name that is free can be created, under the next id. -/
lemma exists_createEnvironment {name kind path : Value} {n p : String} {k : RuntimeKind}
    (hname : Argument.name "name" name = .ok (.text n))
    (hpath : Argument.name "storage_path" path = .ok (.text p))
    (hkind : Argument.runtimeKind kind = .ok k) (hfree : db.tables.environmentNamed? n = none) :
    ∃ created, (Call.createEnvironment name kind path).script.run db =
        (.ok (.int (nextId (db.tables.environments.map (·.id)))), created) ∧
      ∃ owner ∈ created.tables.environments,
        owner.id = nextId (db.tables.environments.map (·.id)) := by
  let row : Environment := ⟨nextId (db.tables.environments.map (·.id)), n, k, p, none⟩
  let tables : Store := { db.tables with environments := db.tables.environments ++ [row] }
  refine ⟨{ db with tables }, ?_, row, List.mem_append_right _ List.mem_cons_self, rfl⟩
  rw [Call.script_eq_change]
  apply Script.run_change_of_ok
  simp only [Call.run, Store.createEnvironment, hname, hpath, hkind, Store.encoded_text, hfree, ensure,
    ok_bind]
  rfl

/-- Creating an environment leaves what the others own. -/
lemma apartFrom_createEnvironment {name kind path : Value} :
    ApartFrom (nextId (db.tables.environments.map (·.id))) db
      ((Call.createEnvironment name kind path).script.run db).2 := by
  refine .call fun answer s' hrun other hother => ?_
  obtain ⟨id, hcreate⟩ := Call.written_eq_ok hrun
  exact (Store.writes_of_createEnvironment hcreate).frame hother

/-- Where an environment is all that has come, dropping it leaves the database from before. -/
lemma Reachable.eq_of_dropped (hdb : db.Reachable)
    (hnew : ∀ owner ∈ db.tables.environments, owner.id ≠ environment) {populated : Database}
    (hpopulated : populated.Reachable) (hapart : ApartFrom environment db populated) :
    ((Call.dropEnvironment environment).script.run populated).2 = db := by
  have hconfined : (Call.dropEnvironment environment).Confined populated.tables environment := by
    refine ⟨nofun, fun other haddressed => ?_⟩
    exact Eq.symm haddressed
  have hdrop : ApartFrom environment populated
      ((Call.dropEnvironment environment).script.run populated).2 :=
    .call fun answer s' hrun other hother =>
      hpopulated.stores.1.consistent.ownedBy_run_of_confined hconfined hrun hother
  refine (hapart.trans hdrop).eq hdb (hpopulated.call _) ?_
  rw [hpopulated.ownedBy_after_drop, hdb.stores.1.consistent.ownedBy_of_absent hnew]

/-- In every reachable database an environment with a valid name that is free can be created.  After
any steps that stay within it, successful or failing, dropping it leaves the database as it was in
the beginning, and whatever is done then is answered, with the same ids, as if none of it had been
done.  Unless one of the steps has dropped the environment, it is there to be dropped. -/
theorem Reachable.drop_restores (hdb : db.Reachable) {name kind path : Value} {n p : String}
    {k : RuntimeKind} (hname : Argument.name "name" name = .ok (.text n))
    (hpath : Argument.name "storage_path" path = .ok (.text p))
    (hkind : Argument.runtimeKind kind = .ok k) (hfree : db.tables.environmentNamed? n = none) :
    ∃ id created, (Call.createEnvironment name kind path).script.run db = (.ok (.int id), created) ∧
      ∀ steps : List Step, Step.StayWithin id created steps →
        let populated := (Step.runAll created steps).2
        let dropped := (Call.dropEnvironment id).script.run populated
        (Step.anyDrops id steps = false → ∃ removed : RowCounts, dropped.1 = .ok removed.toJson) ∧
          dropped.2 = db ∧ ∀ later, Step.runAll dropped.2 later = Step.runAll db later := by
  obtain ⟨created, hcreate, owner, howner, hid⟩ := exists_createEnvironment hname hpath hkind hfree
  refine ⟨_, created, hcreate, ?_⟩
  intro steps hsteps populated dropped
  have hapart : ApartFrom _ db ((Call.createEnvironment name kind path).script.run db).2 :=
    apartFrom_createEnvironment
  have hcreated := hdb.call (Call.createEnvironment name kind path)
  rw [hcreate] at hapart hcreated
  obtain ⟨hharmless, hopen⟩ := hsteps.harmless
  have hpopulated : populated.Reachable := Step.reachable_runAll hcreated steps hharmless
  have hnew : ∀ owner ∈ db.tables.environments,
      owner.id ≠ nextId (db.tables.environments.map (·.id)) :=
    fun owner howner => Int.ne_of_lt (lt_nextId (List.mem_map_of_mem howner))
  have hrestored : dropped.2 = db :=
    hdb.eq_of_dropped hnew hpopulated (hapart.trans (Step.apartFrom_runAll hcreated steps hsteps))
  refine ⟨fun hkept => ?_, hrestored, fun later => by rw [hrestored]⟩
  rw [← hid] at hkept
  have hrows := Step.appends_ownedBy_runAll hcreated steps hharmless hopen hkept
  obtain ⟨owner', howner', hidentity⟩ := hrows.exists_owner howner
  have hid' : owner'.id = nextId (db.tables.environments.map (·.id)) :=
    (Environment.id_eq_of_identity hidentity).trans hid
  have hdrop := hpopulated.run_dropEnvironment howner'
  rw [hid'] at hdrop
  exact ⟨_, congrArg Prod.fst hdrop⟩

/-- An environment beside another one gets two blocks, one of them by a payload with all kinds of
parts, while a payload at an old height, an entry at a block that does not exist and a transaction
that is aborted leave nothing.  Dropping it leaves the other one alone. -/
theorem drop_restores_beside_other :
    let payload (environment : String) : Value :=
      .record [("environment", .text environment), ("height", .int 4), ("index_hash", .bytes [1]),
        ("trie_root_hash", .bytes [2]),
        ("entries", .list [.record [("key_hash", .bytes [3]), ("value", .bytes [])]]),
        ("contracts", .list [.record [("qualified_id", .text "c"), ("source", .bytes [])]]),
        ("executions", .list [.record [("contract", .text "c"), ("tx_id", .bytes [5])]]),
        ("variables", .list [.record [("contract", .text "c"), ("key", .text "k"),
          ("tx_id", .bytes [5]), ("value", .bytes [6])]]),
        ("maps", .list [.record [("contract", .text "c"), ("name", .text "m"),
          ("key_hash", .bytes [7]), ("value", .bytes [8])]])]
    let create (name : String) : Call := .createEnvironment (.text name) (.int 2) (.text "/x")
    let record (height : Int) : Step :=
      .call (.recordBlock 2 (.int height) (.bytes [height.toNat.toUInt8]) (.bytes [2]))
    let setUp : List Step := [.call (create "a"), .call (.applyBlock (payload "a"))]
    let steps : List Step :=
      [.call (.applyBlock (payload "b")), .call (.applyBlock (payload "b")),
        .call (.putEntry 7 (.bytes [1]) (.bytes [1])), .transaction [record 5] true, record 6]
    let db := (Step.runAll {} setUp).2
    ∃ populated, (Step.runAll ((create "b").script.run db).2 steps).2 = populated ∧
      db.tables.rowCounts = ⟨1, 1, 1, 1, 1, 1, 1, 1, 1⟩ ∧
      populated.tables.rowCounts = ⟨2, 3, 2, 2, 2, 2, 2, 2, 2⟩ ∧
      (∃ removed : RowCounts,
        ((Call.dropEnvironment 2).script.run populated).1 = .ok removed.toJson) ∧
      ((Call.dropEnvironment 2).script.run populated).2 = db ∧
      ∀ later, Step.runAll ((Call.dropEnvironment 2).script.run populated).2 later =
        Step.runAll db later := by
  intro payload create record setUp steps db
  have hdb : db.Reachable := Step.reachable_runAll (.new false) setUp (by decide)
  have hpayload : ∀ (s : Store) (owner : Environment),
      (BlockPayload.ofValue (payload "b") >>= fun checked => s.resolve checked.environment) =
        .ok owner → Call.Confined s owner.id (.applyBlock (payload "b")) := by
    intro s owner hresolve
    refine ⟨nofun, ?_⟩
    rintro other ⟨checked, target, hchecked, htarget, rfl⟩
    rw [hchecked, ok_bind, htarget] at hresolve
    rw [Except.ok.inj hresolve]
  have hfree : db.tables.environmentNamed? "b" = none := by decide +kernel
  have hanswer : (match ((create "b").script.run db).1 with
      | .ok (.int n) => some n
      | _ => none) = some 2 := by decide +kernel
  let first : Database :=
    (Step.run ((create "b").script.run db).2 (.call (.applyBlock (payload "b")))).2
  let second : Database := (Step.run first (.call (.applyBlock (payload "b")))).2
  have hfirst := hpayload ((create "b").script.run db).2.tables ⟨2, "b", .wasm, "/x", none⟩
    (by decide +kernel)
  have hsecond := hpayload first.tables ⟨2, "b", .wasm, "/x", some 4⟩ (by decide +kernel)
  have hthird : ∀ other, 7 ∈ second.tables.blockIdsOf other → other = 2 := by
    have hblocks : ∀ row ∈ second.tables.blocks, row.id ≠ 7 := by decide +kernel
    intro other hother
    obtain ⟨row, hrow, -, hid⟩ := Store.mem_blockIdsOf.1 hother
    exact absurd hid (hblocks row hrow)
  have hrecord : ∀ (s : Store) (height : Int), Call.Confined s 2 (.recordBlock 2 (.int height)
      (.bytes [height.toNat.toUInt8]) (.bytes [2])) :=
    fun s height => ⟨nofun, fun other haddressed => Eq.symm haddressed⟩
  have hcounts : db.tables.rowCounts = ⟨1, 1, 1, 1, 1, 1, 1, 1, 1⟩ := by decide +kernel
  have hcounts' : (Step.runAll ((create "b").script.run db).2 steps).2.tables.rowCounts =
      ⟨2, 3, 2, 2, 2, 2, 2, 2, 2⟩ := by decide +kernel
  have hname : Argument.name "name" (.text "b") = .ok (.text "b") := rfl
  have hpath : Argument.name "storage_path" (.text "/x") = .ok (.text "/x") := rfl
  have hkind : Argument.runtimeKind (.int 2) = .ok .wasm := rfl
  have hrun := hdb.drop_restores hname hpath hkind hfree
  -- nothing more is computed from the database
  clear_value db
  obtain ⟨id, created, hcreate, hlaw⟩ := hrun
  rw [hcreate] at hanswer
  obtain rfl := Option.some.inj hanswer
  obtain rfl : ((create "b").script.run db).2 = created := congrArg Prod.snd hcreate
  have hsteps : Step.StayWithin 2 ((create "b").script.run db).2 steps :=
    ⟨hfirst, hsecond, ⟨nofun, hthird⟩, ⟨hrecord _ 5, trivial⟩, hrecord _ 6, trivial⟩
  obtain ⟨hdropped, hrestored, hlater⟩ := hlaw steps hsteps
  exact ⟨_, rfl, hcounts, hcounts', hdropped rfl, hrestored, hlater⟩

end Database

end ReplayLedger
