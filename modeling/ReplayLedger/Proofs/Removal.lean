import ReplayLedger.Command.Run
import ReplayLedger.Proofs.Ownership

/-!
# What goes with an environment

A row refers to rows of other tables by their ids (`Row.references`).  An environment *owns* its own
row, and with a row every row that refers to it (`Store.Owns`): these are the rows that would be left
without what they refer to, or that a database would take along of its own accord.

Dropping an environment does not follow references row by row.  It goes through every table once and
asks for some of the references only: an execution goes with its block, whatever its contract is, and
an instance with its variable or its block, whatever its execution is.  In a consistent store this
makes no difference, because the rows that a row refers to lie in one environment.  So exactly the
rows that are owned go, no row that stays has lost a row it refers to, and the numbers that are told
are those of the rows lost (`Store.Consistent.losesOwned`).
-/

namespace ReplayLedger

/-! ## Rows of all tables -/

/-- The tables of the store. -/
inductive TableName where
  | environments
  | blocks
  | entries
  | contracts
  | executions
  | vars
  | instances
  | maps
  | mapEntries
  deriving DecidableEq, Repr

/-- A row of one of the tables. -/
inductive Row where
  | environment (row : Environment)
  | block (row : Block)
  | entry (row : StateEntry)
  | contract (row : Contract)
  | execution (row : Execution)
  | var (row : Variable)
  | written (row : VariableInstance)
  | map (row : ContractMap)
  | mapEntry (row : MapEntry)
  deriving DecidableEq, Repr

namespace Row

/-- The table of a row, and its id there. -/
def address : Row → TableName × Int
  | environment row => (.environments, row.id)
  | block row => (.blocks, row.id)
  | entry row => (.entries, row.id)
  | contract row => (.contracts, row.id)
  | execution row => (.executions, row.id)
  | var row => (.vars, row.id)
  | written row => (.instances, row.id)
  | map row => (.maps, row.id)
  | mapEntry row => (.mapEntries, row.id)

/-- The addresses of the rows that a row refers to. -/
def references : Row → List (TableName × Int)
  | environment _ => []
  | block row => [(.environments, row.environmentId)]
  | entry row => [(.blocks, row.blockId)]
  | contract row => [(.environments, row.environmentId), (.blocks, row.blockId)]
  | execution row => [(.blocks, row.blockId), (.contracts, row.contractId)]
  | var row => [(.contracts, row.contractId)]
  | written row =>
    [(.vars, row.variableId), (.blocks, row.blockId), (.executions, row.executionId)]
  | map row => [(.contracts, row.contractId)]
  | mapEntry row => [(.maps, row.mapId), (.blocks, row.blockId)]

end Row

namespace Store

/-- A row is in its table. -/
def HasRow (s : Store) : Row → Prop
  | .environment row => row ∈ s.environments
  | .block row => row ∈ s.blocks
  | .entry row => row ∈ s.entries
  | .contract row => row ∈ s.contracts
  | .execution row => row ∈ s.executions
  | .var row => row ∈ s.vars
  | .written row => row ∈ s.instances
  | .map row => row ∈ s.maps
  | .mapEntry row => row ∈ s.mapEntries

/-- The ids of a table. -/
def ids (s : Store) : TableName → List Int
  | .environments => s.environments.map (·.id)
  | .blocks => s.blocks.map (·.id)
  | .entries => s.entries.map (·.id)
  | .contracts => s.contracts.map (·.id)
  | .executions => s.executions.map (·.id)
  | .vars => s.vars.map (·.id)
  | .instances => s.instances.map (·.id)
  | .maps => s.maps.map (·.id)
  | .mapEntries => s.mapEntries.map (·.id)

/-- An environment owns its own row, and with a row every row that refers to it. -/
inductive Owns (s : Store) (environment : Int) : Row → Prop
  | self {owner : Environment} :
    owner ∈ s.environments → owner.id = environment → Owns s environment (.environment owner)
  | through {row target : Row} :
    Owns s environment target → s.HasRow row → target.address ∈ row.references →
      Owns s environment row

variable {s s' : Store} {environment : Int} {row : Row}

/-- A row in its table has its id among those of the table. -/
lemma mem_ids_of_hasRow (h : s.HasRow row) : row.address.2 ∈ s.ids row.address.1 := by
  cases row <;> exact List.mem_map_of_mem h

/-! ## What is owned is what is collected -/

/-- What an environment owns is in the store. -/
lemma hasRow_of_ownedBy (h : (s.ownedBy environment).HasRow row) : s.HasRow row := by
  cases row <;> exact (List.mem_filter.1 h).1

/-- A row that refers to one that is collected is collected too: in a consistent store it does not
matter which of its references is followed. -/
lemma Consistent.ownedBy_of_reference (hs : s.Consistent) (hrow : s.HasRow row)
    {reference : TableName × Int} (href : reference ∈ row.references)
    (howned : reference.2 ∈ (s.ownedBy environment).ids reference.1) :
    (s.ownedBy environment).HasRow row := by
  cases row with
  | environment row => cases href
  | block row =>
    obtain rfl := List.mem_singleton.1 href
    obtain ⟨owner, howner, hid⟩ := List.mem_map.1 howned
    have howner' : owner.id = environment := by simpa using (List.mem_filter.1 howner).2
    exact List.mem_filter.2 ⟨hrow, decide_eq_true (hid.symm.trans howner')⟩
  | entry row =>
    obtain rfl := List.mem_singleton.1 href
    exact List.mem_filter.2 ⟨hrow, decide_eq_true howned⟩
  | contract row =>
    obtain ⟨-, -, home, hhome, -, hid, hsame⟩ := hs.links.contracts row hrow
    refine List.mem_filter.2 ⟨hrow, decide_eq_true ?_⟩
    rcases List.mem_cons.1 href with rfl | href
    · obtain ⟨owner, howner, hownerId⟩ := List.mem_map.1 howned
      have howner' : owner.id = environment := by simpa using (List.mem_filter.1 howner).2
      exact hownerId.symm.trans howner'
    · obtain rfl := List.mem_singleton.1 href
      have hblock : home.id ∈ s.blockIdsOf environment := hid ▸ howned
      rw [← hsame]
      exact (hs.ids.blockId_mem_iff hhome).1 hblock
  | execution row =>
    obtain ⟨home, hhome, invoked, hinvoked, hid, hinvokedId, hsame⟩ := hs.links.executions row hrow
    refine List.mem_filter.2 ⟨hrow, decide_eq_true ?_⟩
    rcases List.mem_cons.1 href with rfl | href
    · exact howned
    · obtain rfl := List.mem_singleton.1 href
      have hcontract : invoked.id ∈ s.contractIdsOf environment := hinvokedId ▸ howned
      rw [hs.ids.contractId_mem_iff hinvoked, hsame] at hcontract
      rw [← hid]
      exact (hs.ids.blockId_mem_iff hhome).2 hcontract
  | var row =>
    obtain rfl := List.mem_singleton.1 href
    exact List.mem_filter.2 ⟨hrow, decide_eq_true howned⟩
  | written row =>
    obtain ⟨-, -, -, -, -, -, writer, hwriter, -, -, -, hwriterId, hhere, -⟩ :=
      hs.links.instances row hrow
    refine List.mem_filter.2 ⟨hrow, decide_eq_true ?_⟩
    rcases List.mem_cons.1 href with rfl | href
    · exact .inl howned
    rcases List.mem_cons.1 href with rfl | href
    · exact .inr howned
    · obtain rfl := List.mem_singleton.1 href
      obtain ⟨other, hother, hotherId⟩ := List.mem_map.1 howned
      obtain ⟨hmem, hblock⟩ := List.mem_filter.1 hother
      have hsame : other = writer :=
        List.inj_on_of_nodup_map (nodup_of_rise hs.ids.executions) hmem hwriter
          (hotherId.trans hwriterId.symm)
      rw [hsame, hhere] at hblock
      exact .inr (of_decide_eq_true hblock)
  | map row =>
    obtain rfl := List.mem_singleton.1 href
    exact List.mem_filter.2 ⟨hrow, decide_eq_true howned⟩
  | mapEntry row =>
    refine List.mem_filter.2 ⟨hrow, decide_eq_true ?_⟩
    rcases List.mem_cons.1 href with rfl | href
    · exact .inl howned
    · obtain rfl := List.mem_singleton.1 href
      exact .inr howned

/-- A row that is collected is owned: the references that are asked for lead to the environment. -/
lemma Consistent.owns_of_ownedBy (hs : s.Consistent) (h : (s.ownedBy environment).HasRow row) :
    s.Owns environment row := by
  have hblock : ∀ {home : Block}, home ∈ s.blocks → home.environmentId = environment →
      s.Owns environment (.block home) := by
    intro home hhome howned
    obtain ⟨owner, howner, hid⟩ := hs.links.blocks home hhome
    have hself : s.Owns environment (.environment owner) := .self howner (hid.trans howned)
    exact .through hself hhome (by simp [Row.address, Row.references, hid])
  have hcontract : ∀ {owner : Contract}, owner ∈ s.contracts → owner.environmentId = environment →
      s.Owns environment (.contract owner) := by
    intro owner howner howned
    obtain ⟨-, -, home, hhome, -, hid, hsame⟩ := hs.links.contracts owner howner
    have hhomeOwned : s.Owns environment (.block home) := hblock hhome (hsame.trans howned)
    exact .through hhomeOwned howner (by simp [Row.address, Row.references, hid])
  have hatBlock : ∀ {row : Row} {id : Int}, s.HasRow row → (.blocks, id) ∈ row.references →
      id ∈ s.blockIdsOf environment → s.Owns environment row := by
    intro row id hrow href hid
    obtain ⟨home, hhome, howned, rfl⟩ := mem_blockIdsOf.1 hid
    have htarget : s.Owns environment (.block home) := hblock hhome howned
    exact .through htarget hrow href
  have hofContract : ∀ {row : Row} {id : Int}, s.HasRow row → (.contracts, id) ∈ row.references →
      id ∈ s.contractIdsOf environment → s.Owns environment row := by
    intro row id hrow href hid
    obtain ⟨owner, howner, howned, rfl⟩ := mem_contractIdsOf.1 hid
    have htarget : s.Owns environment (.contract owner) := hcontract howner howned
    exact .through htarget hrow href
  have hrow : s.HasRow row := hasRow_of_ownedBy h
  cases row with
  | environment row => exact .self hrow (of_decide_eq_true (List.mem_filter.1 h).2)
  | block row => exact hblock hrow (of_decide_eq_true (List.mem_filter.1 h).2)
  | entry row =>
    exact hatBlock hrow List.mem_cons_self (of_decide_eq_true (List.mem_filter.1 h).2)
  | contract row => exact hcontract hrow (of_decide_eq_true (List.mem_filter.1 h).2)
  | execution row =>
    exact hatBlock hrow List.mem_cons_self (of_decide_eq_true (List.mem_filter.1 h).2)
  | var row =>
    exact hofContract hrow List.mem_cons_self (of_decide_eq_true (List.mem_filter.1 h).2)
  | written row =>
    rcases of_decide_eq_true (List.mem_filter.1 h).2 with hvar | hid
    · obtain ⟨declared, hdeclared, howner, hid⟩ := mem_variableIdsOf.1 hvar
      have hrow' : s.HasRow (.var declared) := hdeclared
      have howned : s.Owns environment (.var declared) := hofContract hrow' List.mem_cons_self howner
      exact .through howned hrow (by simp [Row.address, Row.references, hid])
    · exact hatBlock hrow (by simp [Row.references]) hid
  | map row =>
    exact hofContract hrow List.mem_cons_self (of_decide_eq_true (List.mem_filter.1 h).2)
  | mapEntry row =>
    rcases of_decide_eq_true (List.mem_filter.1 h).2 with hmap | hid
    · obtain ⟨declared, hdeclared, howner, hid⟩ := mem_mapIdsOf.1 hmap
      have hrow' : s.HasRow (.map declared) := hdeclared
      have howned : s.Owns environment (.map declared) := hofContract hrow' List.mem_cons_self howner
      exact .through howned hrow (by simp [Row.address, Row.references, hid])
    · exact hatBlock hrow (by simp [Row.references]) hid

/-- In a consistent store the rows that an environment owns are those that are collected for it. -/
lemma Consistent.hasRow_ownedBy_iff (hs : s.Consistent) :
    (s.ownedBy environment).HasRow row ↔ s.Owns environment row := by
  refine ⟨hs.owns_of_ownedBy, fun h => ?_⟩
  induction h with
  | self howner hid => exact List.mem_filter.2 ⟨howner, decide_eq_true hid⟩
  | through _ hrow href ih => exact hs.ownedBy_of_reference hrow href (mem_ids_of_hasRow ih)

/-! ## Dropping -/

/-- A row stays exactly if it is not collected. -/
lemma hasRow_deleteOwned_iff :
    (s.deleteOwned environment).2.HasRow row ↔ s.HasRow row ∧ ¬ (s.ownedBy environment).HasRow row := by
  rw [deleteOwned_eq]
  cases row <;> simp [HasRow, ownedBy] <;> tauto

end Store

/-- Numbers of rows are added table by table. -/
instance : Add RowCounts where
  add a b := ⟨a.environments + b.environments, a.blocks + b.blocks, a.entries + b.entries,
    a.contracts + b.contracts, a.executions + b.executions, a.vars + b.vars,
    a.instances + b.instances, a.maps + b.maps, a.mapEntries + b.mapEntries⟩

/-- Counts that are added table by table have totals that are added. -/
lemma RowCounts.total_add (a b : RowCounts) : (a + b).total = a.total + b.total := by
  show RowCounts.total ⟨_, _, _, _, _, _, _, _, _⟩ = _
  simp only [RowCounts.total]
  omega

namespace Store

variable {s s' : Store} {environment : Int}

/-- The rows that go and those that stay are all rows. -/
lemma rowCounts_eq_add :
    s.rowCounts = (s.ownedBy environment).rowCounts + (s.deleteOwned environment).2.rowCounts := by
  rw [deleteOwned_eq]
  show RowCounts.mk _ _ _ _ _ _ _ _ _ = RowCounts.mk _ _ _ _ _ _ _ _ _
  congr 1 <;> exact List.length_eq_length_filter_add _

/-- A store that has lost what an environment owned, and nothing else. -/
structure LosesOwned (s : Store) (environment : Int) (removed : RowCounts) (s' : Store) : Prop where
  /-- The rows that are collected are those that the environment owned. -/
  collected : ∀ row, (s.ownedBy environment).HasRow row ↔ s.Owns environment row
  /-- Every other row is there, as it was. -/
  kept : ∀ row, s'.HasRow row ↔ s.HasRow row ∧ ¬ s.Owns environment row
  /-- The environment has nothing left. -/
  empty : s'.ownedBy environment = {}
  /-- No row refers to one that went. -/
  unreferenced : ∀ row gone, s'.HasRow row → s.Owns environment gone →
    gone.address ∉ row.references
  consistent : s'.Consistent
  /-- For every table, the number told is that of the rows owned there. -/
  counted : removed = (s.ownedBy environment).rowCounts
  /-- For every table, it is the number of rows lost. -/
  lost : s.rowCounts = removed + s'.rowCounts

/-- An environment owns nothing once it has been dropped. -/
lemma ownedBy_dropped : (s.deleteOwned environment).2.ownedBy environment = {} := by
  have henvironments : (s.deleteOwned environment).2.environments.filter
      (fun row => row.id = environment) = [] := by
    simp [deleteOwned_eq]
  have hblocks : (s.deleteOwned environment).2.blocks.filter
      (fun row => row.environmentId = environment) = [] := by
    simp [deleteOwned_eq]
  have hcontracts : (s.deleteOwned environment).2.contracts.filter
      (fun row => row.environmentId = environment) = [] := by
    simp [deleteOwned_eq]
  simp only [ownedBy, blockIdsOf, contractIdsOf, variableIdsOf, mapIdsOf, henvironments, hblocks,
    hcontracts, List.map_nil, List.not_mem_nil, decide_false, or_self, List.filter_false]

/-- An environment that exists can be dropped. -/
lemma dropEnvironment_eq {owner : Environment} (owned : s.environment? environment = some owner) :
    s.dropEnvironment environment = .ok (s.deleteOwned environment) := by
  rw [dropEnvironment, storableId_of_find? owned, owned]
  rfl

/-- Dropping an environment takes what it owns, and nothing else. -/
theorem Consistent.losesOwned (hs : s.Consistent) {owner : Environment}
    (owned : s.environment? environment = some owner) :
    s.LosesOwned environment (s.deleteOwned environment).1 (s.deleteOwned environment).2 := by
  have hkept : ∀ row, (s.deleteOwned environment).2.HasRow row ↔
      s.HasRow row ∧ ¬ s.Owns environment row := by
    intro row
    rw [hasRow_deleteOwned_iff, hs.hasRow_ownedBy_iff]
  constructor
  case collected => exact fun row => hs.hasRow_ownedBy_iff
  case kept => exact hkept
  case empty => exact ownedBy_dropped
  case unreferenced =>
    intro row gone hrow hgone href
    obtain ⟨hheld, hfree⟩ := (hkept row).1 hrow
    exact hfree (.through hgone hheld href)
  case consistent => exact hs.change (.drop environment owner owned)
  case counted => rfl
  case lost => exact rowCounts_eq_add

end Store

/-- The command that drops an environment, once it has been confirmed, tells how many rows went. -/
lemma Command.run_dropEnvironment {s s' : Store} {owner : Environment} {removed : RowCounts}
    (hdrop : s.dropEnvironment owner.id = .ok (removed, s')) {ref : String}
    (href : s.resolveArgument ref = .ok owner) {confirmed : Bool} {input : List String}
    (hconfirmed : confirmed = true ∨ (confirm (dropQuestion owner.name) input).2 = true)
    (place : String) :
    (run place input s (.dropEnvironment ref confirmed)).1.stdout =
        "Dropped environment '" ++ owner.name ++ "' (" ++ Numeral.ofInt removed.total ++ " rows)\n" ∧
      (run place input s (.dropEnvironment ref confirmed)).2 = s' := by
  have hdropped : drop s owner = (.success ("Dropped environment '" ++ owner.name ++ "' ("
      ++ Numeral.ofInt removed.total ++ " rows)\n"), s') := by
    simp only [drop, attempt, hdrop]
  have hasked : run place input s (.dropEnvironment ref confirmed) =
      asked confirmed owner input s (drop s owner) := by
    simp only [run, attempt, href]
  rw [hasked, hdropped]
  cases confirmed with
  | true => exact ⟨rfl, rfl⟩
  | false =>
    have hyes : (confirm (dropQuestion owner.name) input).2 = true :=
      hconfirmed.resolve_left Bool.false_ne_true
    simp only [asked, hyes]
    exact ⟨rfl, rfl⟩

/-- In every reachable database an environment can be dropped. -/
lemma Database.Reachable.run_dropEnvironment {db : Database} (hdb : db.Reachable) {owner : Environment}
    (howner : owner ∈ db.tables.environments) :
    (Call.dropEnvironment owner.id).script.run db =
      (.ok (db.tables.deleteOwned owner.id).1.toJson,
        { db with tables := (db.tables.deleteOwned owner.id).2 }) := by
  have owned := hdb.stores.1.consistent.environment?_eq_some.2 ⟨howner, rfl⟩
  rw [Call.script_eq_change]
  apply Script.run_change_of_ok
  rw [Call.run, Store.dropEnvironment_eq owned]
  rfl

/-- In every reachable database an environment can be dropped.  It goes with exactly the rows that it
owns, nothing that stays is changed or refers to a row that went, and the tables stay consistent.  The
numbers told are those of the rows owned, which are those of the rows lost, and the command line
prints their total. -/
theorem Database.Reachable.drop_loses_owned {db : Database} (hdb : db.Reachable) {owner : Environment}
    (howner : owner ∈ db.tables.environments) :
    ∃ removed rest,
      (Call.dropEnvironment owner.id).script.run db =
        (.ok removed.toJson, { db with tables := rest }) ∧
      db.tables.LosesOwned owner.id removed rest ∧
      ∀ (place ref : String) (confirmed : Bool) (input : List String),
        db.tables.resolveArgument ref = .ok owner →
        confirmed = true ∨ (Command.confirm (Command.dropQuestion owner.name) input).2 = true →
        (Command.run place input db.tables (.dropEnvironment ref confirmed)).1.stdout =
            "Dropped environment '" ++ owner.name ++ "' ("
              ++ Numeral.ofInt (db.tables.rowCounts.total - rest.rowCounts.total) ++ " rows)\n" ∧
          (Command.run place input db.tables (.dropEnvironment ref confirmed)).2 = rest := by
  have hs := hdb.stores.1.consistent
  have owned := hs.environment?_eq_some.2 ⟨howner, rfl⟩
  have hloses := hs.losesOwned owned
  have hdrop := Store.dropEnvironment_eq owned
  refine ⟨_, _, hdb.run_dropEnvironment howner, hloses, ?_⟩
  intro place ref confirmed input href hconfirmed
  have htotal : ((db.tables.deleteOwned owner.id).1.total : Int) =
      db.tables.rowCounts.total - (db.tables.deleteOwned owner.id).2.rowCounts.total := by
    rw [hloses.lost, RowCounts.total_add]
    omega
  rw [← htotal]
  exact Command.run_dropEnvironment hdrop href hconfirmed place

/-- Two environments with rows in all tables, whose ids lie between each other.  The first one
goes with its two blocks and all that belongs to them. -/
theorem Database.drop_loses_owned_of_two :
    let payload (environment : String) (height : Int) (deployed : List Value) : Value :=
      .record [("environment", .text environment), ("height", .int height),
        ("index_hash", .bytes [height.toNat.toUInt8]), ("trie_root_hash", .bytes [2]),
        ("entries", .list [.record [("key_hash", .bytes [3]), ("value", .bytes [])]]),
        ("contracts", .list deployed),
        ("executions", .list [.record [("contract", .text "c"), ("tx_id", .bytes [5])]]),
        ("variables", .list [.record [("contract", .text "c"), ("key", .text "k"),
          ("tx_id", .bytes [5]), ("value", .bytes [6])]]),
        ("maps", .list [.record [("contract", .text "c"), ("name", .text "m"),
          ("key_hash", .bytes [7]), ("value", .bytes [8])]])]
    let contract : Value := .record [("qualified_id", .text "c"), ("source", .bytes [])]
    let steps : List Step :=
      [.call (.createEnvironment (.text "a") (.int 1) (.text "/a")),
        .call (.createEnvironment (.text "b") (.int 2) (.text "/b")),
        .call (.applyBlock (payload "a" 4 [contract])), .call (.applyBlock (payload "b" 4 [contract])),
        .call (.applyBlock (payload "a" 5 []))]
    let db := (Step.runAll {} steps).2
    ∃ removed rest,
      (Call.dropEnvironment 1).script.run db = (.ok removed.toJson, { db with tables := rest }) ∧
      db.tables.LosesOwned 1 removed rest ∧
      db.tables.rowCounts = ⟨2, 3, 3, 2, 3, 2, 3, 2, 3⟩ ∧ removed = ⟨1, 2, 2, 1, 2, 1, 2, 1, 2⟩ ∧
      (Command.run "db" ["Y"] db.tables (.dropEnvironment "a" false)).1.stdout =
        "Dropped environment 'a' (14 rows)\n" := by
  intro payload contract steps db
  have hdb : db.Reachable := Step.reachable_runAll (.new false) steps (by decide)
  have howner : (⟨1, "a", .interpreter, "/a", some 5⟩ : Environment) ∈ db.tables.environments := by
    decide +kernel
  obtain ⟨removed, rest, hrun, hloses, hprinted⟩ := hdb.drop_loses_owned howner
  have hremoved : removed = ⟨1, 2, 2, 1, 2, 1, 2, 1, 2⟩ := by
    rw [hloses.counted]
    decide +kernel
  have htotal : (db.tables.rowCounts.total : Int) - rest.rowCounts.total = 14 := by
    rw [hloses.lost, RowCounts.total_add, hremoved]
    show ((14 + rest.rowCounts.total : Nat) : Int) - rest.rowCounts.total = 14
    omega
  obtain ⟨hstdout, -⟩ :=
    hprinted "db" "a" false ["Y"] (by decide +kernel) (.inr (by decide +kernel))
  have hnumber : "Dropped environment '" ++ "a" ++ "' (" ++ Numeral.ofInt 14 ++ " rows)\n" =
      "Dropped environment 'a' (14 rows)\n" := by
    decide +kernel
  have hcounts : db.tables.rowCounts = ⟨2, 3, 3, 2, 3, 2, 3, 2, 3⟩ := by decide +kernel
  rw [htotal] at hstdout
  -- nothing more is computed from the database
  clear_value db
  exact ⟨removed, rest, hrun, hloses, hcounts, hremoved, hstdout.trans hnumber⟩

end ReplayLedger
