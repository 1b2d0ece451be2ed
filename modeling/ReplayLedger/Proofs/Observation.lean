import ReplayLedger.Proofs.Answers
import ReplayLedger.Proofs.Divergence
import ReplayLedger.Store.Document

/-!
# What can be told apart

Ids of rows are handed out in the order of insertion, over all environments.  Two stores with the same
environments and the same histories may have other ids everywhere, and yet no read that goes by names
and heights can tell them apart (`Twins.alike`): they show the same blocks, hold the same values at
every height, and come to the same reports.
-/

namespace ReplayLedger

/-- What is told of a block, with names in place of ids. -/
structure BlockView where
  indexHash : Bytes
  trieRoot : Bytes
  entries : List (Bytes × Bytes)
  contracts : List Deployment
  executions : List Invocation
  vars : List (VariableSlot × Bytes)
  maps : List (MapSlot × Bytes)

namespace Store

/-- The block of an environment at a height, with all that was recorded for it. -/
def blockView (s : Store) (environment height : Int) : Except Error BlockView := do
  let block ← s.getBlock environment height
  let entries ← s.listEntries block.id
  let contracts ← s.listContracts environment
  let executions ← (← s.listExecutions block.id).mapM fun row => do
    let invoked ← s.getContractById row.contractId
    return (⟨invoked.qualifiedId, row.transactionId⟩ : Invocation)
  let vars ← s.variableWritesAt block.id
  let maps ← s.mapWritesAt block.id
  return {
    indexHash := block.indexHash, trieRoot := block.trieRoot, entries, executions, vars, maps
    contracts := (contracts.filter fun row => row.blockId = block.id).map
      fun row => ⟨row.qualifiedId, row.source⟩ }

/-- What a variable held at a height, with the height of the write, if there is such a variable. -/
def variableAt (s : Store) (environment : Int) (slot : VariableSlot) (asOf : Value) :
    Except Error (Option (Option (Int × Bytes))) := do
  let contract ← s.getContract slot.qualifiedId environment
  match ← s.findVariable contract.id slot.key with
  | none => return none
  | some id => return some ((← s.latestVariableValue id asOf).map fun row => (row.height, row.value))

/-- What a map held for a key at a height, with the height of the write, if there is such a map. -/
def mapAt (s : Store) (environment : Int) (name : MapName) (keyHash asOf : Value) :
    Except Error (Option (Option (Int × Bytes))) := do
  let contract ← s.getContract name.qualifiedId environment
  match ← s.findMap contract.id name.name with
  | none => return none
  | some id =>
    return some ((← s.latestMapEntry id keyHash asOf).map fun row => (row.height, row.value))

/-- The document that a comparison comes to. -/
def comparison (s : Store) (refs : List Reference) (height : Value) : Except Error Json := do
  return (← s.compareHeights refs height).toJson

/-- Two stores that only differ in the ids of rows that are not environments. -/
structure Alike (s s' : Store) : Prop where
  environments : s.environments = s'.environments
  histories : ∀ environment, s.history environment = s'.history environment
  blocks : ∀ environment height, s.blockView environment height = s'.blockView environment height
  vars : ∀ environment slot asOf, s.variableAt environment slot asOf = s'.variableAt environment slot asOf
  maps : ∀ environment name keyHash asOf,
    s.mapAt environment name keyHash asOf = s'.mapAt environment name keyHash asOf
  comparisons : ∀ refs height, s.comparison refs height = s'.comparison refs height

/-- Two consistent stores with the same environments and the same histories. -/
structure Twins (s s' : Store) : Prop where
  left : s.Consistent
  right : s'.Consistent
  environments : s.environments = s'.environments
  histories : ∀ environment, s.history environment = s'.history environment

/-- Blocks of two stores at one place, with the same hash and root. -/
structure TwinBlocks (s s' : Store) (place : Int × Int) (block block' : Block) : Prop where
  left : s.place? block.id = some place
  right : s'.place? block'.id = some place
  indexHash : block.indexHash = block'.indexHash
  trieRoot : block.trieRoot = block'.trieRoot

end Store

section Options

variable {α α' β : Type} {R : α → α' → Prop} {a : Option α} {a' : Option α'}

/-- Two things that belong to the same third belong together. -/
lemma rel_of_rel {S : α → β → Prop} {S' : α' → β → Prop} {b : Option β} (h : Option.Rel S a b)
    (h' : Option.Rel S' a' b) (hR : ∀ a a' b, S a b → S' a' b → R a a') : Option.Rel R a a' := by
  cases h with
  | none =>
    cases h' with
    | none => exact .none
  | some hab =>
    cases h' with
    | some hab' => exact .some (hR _ _ _ hab hab')

/-- Two options are related if both are empty or neither is, and then their contents are. -/
lemma rel_of_none_iff (hnone : a = none ↔ a' = none)
    (hsome : ∀ x x', a = some x → a' = some x' → R x x') : Option.Rel R a a' := by
  cases a with
  | none =>
    rw [hnone.1 rfl]
    exact .none
  | some x =>
    cases a' with
    | none => cases hnone.2 rfl
    | some x' => exact .some (hsome x x' rfl rfl)

/-- What follows a required row is the same if the rows are related and it does not tell them apart.
-/
lemma require_bind_congr {ε : Error} {f : α → Except Error β} {f' : α' → Except Error β}
    (h : Option.Rel R a a') (hnext : ∀ a a', R a a' → f a = f' a') :
    (require a ε >>= f) = (require a' ε >>= f') := by
  cases h with
  | none => rfl
  | some hab => exact hnext _ _ hab

/-- Rows that each come to their form come to the list of the forms. -/
lemma mapM_eq_ok_of_forall₂ {S : α → β → Prop} {f : α → Except Error β} {rows : List α}
    {forms : List β} (h : List.Forall₂ S rows forms) (hf : ∀ a b, S a b → f a = .ok b) :
    rows.mapM f = .ok forms := by
  induction h with
  | nil => rfl
  | cons hab _ ih =>
    rw [List.mapM_cons, hf _ _ hab, ih]
    rfl

/-- Two selections that go together item by item give lists that go together. -/
lemma forall₂_filterMap {f : β → Option α} {f' : β → Option α'} (h : ∀ b, Option.Rel R (f b) (f' b))
    (items : List β) : List.Forall₂ R (items.filterMap f) (items.filterMap f') := by
  induction items with
  | nil => exact .nil
  | cons b rest ih =>
    have hb := h b
    rw [List.filterMap_cons, List.filterMap_cons]
    generalize f b = form, f' b = form' at hb ⊢
    cases hb with
    | none => exact ih
    | some hab => exact .cons hab ih

/-- Of two related options both are empty or neither is. -/
lemma isNone_eq_of_rel (h : Option.Rel R a a') : a.isNone = a'.isNone := by
  cases h <;> rfl

/-- What is made of related contents is related. -/
lemma rel_map {γ γ' : Type} {S : γ → γ' → Prop} {f : α → γ} {f' : α' → γ'} (h : Option.Rel R a a')
    (hf : ∀ a a', R a a' → S (f a) (f' a')) : Option.Rel S (a.map f) (a'.map f') := by
  cases h with
  | none => exact .none
  | some hab => exact .some (hf _ _ hab)

end Options

namespace Store.Consistent

variable {s : Store} {environment height block : Int}

/-- The contracts that a block deployed, among those of its environment. -/
lemma deploymentsOf (hs : s.Consistent)
    (hplace : s.place? block = some (environment, height)) :
    (((s.contracts.filter fun row => row.environmentId = environment).filter
      fun row => row.blockId = block).map fun row => (⟨row.qualifiedId, row.source⟩ : Deployment)) =
      under height (s.history environment).contracts := by
  rw [← hs.contractsOf_eq hplace, List.filter_filter]
  congr 1
  apply List.filter_congr
  intro row hrow
  obtain ⟨-, -, home, hhome, -, hid, howned⟩ := hs.links.contracts row hrow
  by_cases hblock : row.blockId = block
  · rw [← hblock, ← hid, hs.place?_of_mem hhome] at hplace
    have hsame := (Prod.mk.inj (Option.some.inj hplace)).1
    simp [hblock, ← howned, hsame]
  · simp [hblock]

/-- The invocations at a block, with the names of the contracts. -/
lemma invocationsOf (hs : s.Consistent)
    (hplace : s.place? block = some (environment, height)) :
    ((s.executions.filter fun row => row.blockId = block).mapM fun row => do
      let invoked ← s.getContractById row.contractId
      return (⟨invoked.qualifiedId, row.transactionId⟩ : Invocation)) =
      .ok (under height (s.history environment).executions) := by
  refine mapM_eq_ok_of_forall₂ (hs.executions_forall₂ hplace) ?_
  rintro row invocation ⟨-, height, hform⟩
  obtain ⟨-, name, hname, rfl⟩ := Table.executions_form?.1 hform
  obtain ⟨invoked, hinvoked, rfl⟩ := Option.map_eq_some_iff.1 hname
  rw [getContractById, storableId_of_find? hinvoked, hinvoked]
  rfl

end Store.Consistent

namespace Store.Twins

variable {s s' : Store} {environment height : Int} {block block' : Block} {β : Type}

/-! ## Blocks -/

/-- Twin stores have blocks at the same places, with the same hashes and roots. -/
lemma blockAt?_rel (h : Twins s s') (environment height : Int) :
    Option.Rel (TwinBlocks s s' (environment, height)) (s.blockAt? environment height)
      (s'.blockAt? environment height) := by
  have hright := h.right.blockAt?_rel environment height
  rw [← h.histories] at hright
  refine rel_of_rel (h.left.blockAt?_rel environment height) hright ?_
  rintro block block' facts ⟨hplace, hhash, hroot⟩ ⟨hplace', hhash', hroot'⟩
  exact ⟨hplace, hplace', hhash.trans hhash'.symm, hroot.trans hroot'.symm⟩

/-- What is done with a block does not tell twin stores apart if it does not tell twin blocks apart.
-/
lemma getBlock_bind (h : Twins s s') {f f' : Block → Except Error β}
    (hnext : ∀ block block', TwinBlocks s s' (environment, height) block block' → f block = f' block') :
    (s.getBlock environment height >>= f) = (s'.getBlock environment height >>= f') := by
  simp only [getBlock, bind_assoc, h.environments,
    require_bind_congr (h.blockAt?_rel environment height) hnext]

/-- Twin blocks have the same entries. -/
lemma entriesOf (h : Twins s s') (hb : TwinBlocks s s' (environment, height) block block') :
    s.entriesOf block.id = s'.entriesOf block'.id := by
  rw [h.left.entriesOf_eq hb.left, h.right.entriesOf_eq hb.right, h.histories]

/-- Twin blocks have the same writes to variables. -/
lemma variableTable (h : Twins s s') (hb : TwinBlocks s s' (environment, height) block block') :
    s.variableTable block.id = s'.variableTable block'.id := by
  rw [h.left.variableTable_eq hb.left, h.right.variableTable_eq hb.right, h.histories]

/-- Twin blocks have the same writes to maps. -/
lemma mapTable (h : Twins s s') (hb : TwinBlocks s s' (environment, height) block block') :
    s.mapTable block.id = s'.mapTable block'.id := by
  rw [h.left.mapTable_eq hb.left, h.right.mapTable_eq hb.right, h.histories]

/-- Twins show the same blocks. -/
lemma blockView_eq (h : Twins s s') (environment height : Int) :
    s.blockView environment height = s'.blockView environment height := by
  refine h.getBlock_bind fun block block' hb => ?_
  simp only [listEntries_eq hb.left, listEntries_eq hb.right, listExecutions_eq hb.left,
    listExecutions_eq hb.right, variableWritesAt_eq hb.left, variableWritesAt_eq hb.right,
    mapWritesAt_eq hb.left, mapWritesAt_eq hb.right, ok_bind, listContracts, bind_assoc, pure_bind,
    h.left.invocationsOf hb.left, h.right.invocationsOf hb.right, h.left.deploymentsOf hb.left,
    h.right.deploymentsOf hb.right, h.environments, h.entriesOf hb, h.variableTable hb, h.mapTable hb,
    h.histories, hb.indexHash, hb.trieRoot]

/-! ## Variables and maps -/

/-- What is done with a contract does not tell twin stores apart if only its name matters. -/
lemma getContract_bind (h : Twins s s') {qualifiedId : String} {f f' : Contract → Except Error β}
    (hnext : ∀ contract contract', s.contractName? contract.id = some (environment, qualifiedId) →
      s'.contractName? contract'.id = some (environment, qualifiedId) → f contract = f' contract') :
    (s.getContract qualifiedId environment >>= f) = (s'.getContract qualifiedId environment >>= f') := by
  have hright := h.right.contractNamed?_rel environment qualifiedId
  rw [← h.histories] at hright
  have hrel : Option.Rel (fun contract contract' =>
      s.contractName? contract.id = some (environment, qualifiedId) ∧
        s'.contractName? contract'.id = some (environment, qualifiedId))
      (s.contractNamed? environment qualifiedId) (s'.contractNamed? environment qualifiedId) :=
    rel_of_rel (h.left.contractNamed?_rel environment qualifiedId) hright
      fun _ _ _ hname hname' => ⟨hname.1, hname'.1⟩
  simp only [getContract, bind_assoc, h.environments,
    require_bind_congr hrel fun _ _ hnames => hnext _ _ hnames.1 hnames.2]

/-- Twin stores have variables under the same names. -/
lemma variableNamed?_rel (h : Twins s s') {contract contract' : Int} {slot : VariableSlot}
    (hname : s.contractName? contract = some (environment, slot.qualifiedId))
    (hname' : s'.contractName? contract' = some (environment, slot.qualifiedId)) :
    Option.Rel (fun row row' => s.variableName? row.id = some (environment, slot) ∧
        s'.variableName? row'.id = some (environment, slot))
      (s.variableNamed? contract slot.key) (s'.variableNamed? contract' slot.key) := by
  have hnone := h.left.variableNamed?_eq_none hname slot.key
  rw [h.histories, ← h.right.variableNamed?_eq_none hname' slot.key] at hnone
  refine rel_of_none_iff hnone fun row row' hrow hrow' => ?_
  exact ⟨h.left.variableName?_of_variableNamed? hname hrow,
    h.right.variableName?_of_variableNamed? hname' hrow'⟩

/-- Twin stores have maps under the same names. -/
lemma mapNamed?_rel (h : Twins s s') {contract contract' : Int} {name : MapName}
    (hname : s.contractName? contract = some (environment, name.qualifiedId))
    (hname' : s'.contractName? contract' = some (environment, name.qualifiedId)) :
    Option.Rel (fun row row' => s.mapName? row.id = some (environment, name) ∧
        s'.mapName? row'.id = some (environment, name))
      (s.mapNamed? contract name.name) (s'.mapNamed? contract' name.name) := by
  have hnone := h.left.mapNamed?_eq_none hname name.name
  rw [h.histories, ← h.right.mapNamed?_eq_none hname' name.name] at hnone
  refine rel_of_none_iff hnone fun row row' hrow hrow' => ?_
  exact ⟨h.left.mapName?_of_mapNamed? hname hrow, h.right.mapName?_of_mapNamed? hname' hrow'⟩

/-- Twins hold the same values in variables. -/
lemma variableAt_eq (h : Twins s s') (environment : Int) (slot : VariableSlot) (asOf : Value) :
    s.variableAt environment slot asOf = s'.variableAt environment slot asOf := by
  refine h.getContract_bind fun contract contract' hname hname' => ?_
  rw [findVariable_eq hname, findVariable_eq hname']
  have hrel := h.variableNamed?_rel hname hname'
  generalize s.variableNamed? contract.id slot.key = found,
    s'.variableNamed? contract'.id slot.key = found' at hrel ⊢
  cases hrel with
  | none => rfl
  | @some row row' hnames =>
    simp only [ok_bind, Option.map_some, latestVariableValue_eq hnames.1,
      latestVariableValue_eq hnames.2, bind_assoc, pure_bind]
    refine bind_congr fun height => bind_congr fun _ => ?_
    have hleft := h.left.latestInstance_rel hnames.1 height
    have hright := h.right.latestInstance_rel hnames.2 height
    rw [← h.histories] at hright
    have hsame := rel_of_rel (R := fun row row' => (row.height, row.value) = (row'.height, row'.value))
      hleft hright fun _ _ _ hrow hrow' => by rw [hrow.1, hrow.2, hrow'.1, hrow'.2]
    rw [map_eq_map_of_rel hsame fun _ _ hsame => hsame]

/-- Twins hold the same values in maps. -/
lemma mapAt_eq (h : Twins s s') (environment : Int) (name : MapName) (keyHash asOf : Value) :
    s.mapAt environment name keyHash asOf = s'.mapAt environment name keyHash asOf := by
  refine h.getContract_bind fun contract contract' hname hname' => ?_
  rw [findMap_eq hname, findMap_eq hname']
  have hrel := h.mapNamed?_rel hname hname'
  generalize s.mapNamed? contract.id name.name = found,
    s'.mapNamed? contract'.id name.name = found' at hrel ⊢
  cases hrel with
  | none => rfl
  | @some row row' hnames =>
    simp only [ok_bind, Option.map_some, latestMapEntry_eq hnames.1, latestMapEntry_eq hnames.2,
      bind_assoc, pure_bind]
    refine bind_congr fun keyHash => bind_congr fun height => bind_congr fun _ => ?_
    have hleft := h.left.latestMapEntry_rel hnames.1 keyHash height
    have hright := h.right.latestMapEntry_rel hnames.2 keyHash height
    rw [← h.histories] at hright
    have hsame := rel_of_rel (R := fun row row' => (row.height, row.value) = (row'.height, row'.value))
      hleft hright fun _ _ _ hrow hrow' => by rw [hrow.1, hrow.2, hrow'.1, hrow'.2]
    rw [map_eq_map_of_rel hsame fun _ _ hsame => hsame]

/-! ## Comparisons -/

/-- Twin stores resolve references alike, since they have the same environments. -/
lemma resolveDistinct_eq (h : Twins s s') (refs : List Reference) :
    s.resolveDistinct refs = s'.resolveDistinct refs := by
  have hresolve : s.resolve = s'.resolve := by
    funext ref
    cases ref with
    | id n => simp only [resolve, getEnvironment, environment?, h.environments]
    | name name => simp only [resolve, getEnvironmentByName, environmentNamed?, h.environments]
    | illFormed t => rfl
  rw [resolveDistinct, resolveDistinct, hresolve]

/-- What is done with the blocks at a height does not tell twin stores apart if it does not tell
twin blocks apart. -/
lemma blocksAt_bind (h : Twins s s') (environments : List Int)
    {f f' : List (Int × Block) → Except Error β}
    (hnext : ∀ blocks blocks', List.Forall₂ (fun x x' => x.1 = x'.1 ∧
      TwinBlocks s s' (x.1, height) x.2 x'.2) blocks blocks' → f blocks = f' blocks') :
    (s.blocksAt environments height >>= f) = (s'.blocksAt environments height >>= f') := by
  have hnone : ∀ environment, (s.blockAt? environment height).isNone =
      (s'.blockAt? environment height).isNone :=
    fun environment => isNone_eq_of_rel (h.blockAt?_rel environment height)
  simp only [blocksAt, bind_assoc, pure_bind, hnone]
  refine bind_congr fun _ => bind_congr fun _ => hnext _ _ (forall₂_filterMap (fun environment => ?_) _)
  exact rel_map (h.blockAt?_rel environment height) fun _ _ hb => ⟨rfl, hb⟩

/-- Twins come to the same reports. -/
lemma comparison_eq (h : Twins s s') (refs : List Reference) (height : Value) :
    s.comparison refs height = s'.comparison refs height := by
  simp only [comparison, compareHeights, bind_assoc, pure_bind, h.resolveDistinct_eq]
  refine bind_congr fun height => bind_congr fun environments => bind_congr fun _ => ?_
  refine h.blocksAt_bind _ fun blocks blocks' hblocks => ?_
  have hroots : blocks.map (fun x => (x.1, x.2.trieRoot)) =
      blocks'.map fun x => (x.1, x.2.trieRoot) :=
    map_eq_map_of_forall₂ hblocks fun x x' hx => Prod.ext hx.1 hx.2.trieRoot
  have hentries : blocks.map (fun x => (x.1, s.entriesOf x.2.id)) =
      blocks'.map fun x => (x.1, s'.entriesOf x.2.id) :=
    map_eq_map_of_forall₂ hblocks fun x x' hx => Prod.ext hx.1 (h.entriesOf hx.2)
  have hvars : blocks.map (fun x => (x.1, s.variableTable x.2.id)) =
      blocks'.map fun x => (x.1, s'.variableTable x.2.id) :=
    map_eq_map_of_forall₂ hblocks fun x x' hx => Prod.ext hx.1 (h.variableTable hx.2)
  have hmaps : blocks.map (fun x => (x.1, s.mapTable x.2.id)) =
      blocks'.map fun x => (x.1, s'.mapTable x.2.id) :=
    map_eq_map_of_forall₂ hblocks fun x x' hx => Prod.ext hx.1 (h.mapTable hx.2)
  have hagree : blocks.map (fun x => x.2.trieRoot) = blocks'.map fun x => x.2.trieRoot :=
    map_eq_map_of_forall₂ hblocks fun x x' hx => hx.2.trieRoot
  have hdiverging : s.entryDivergences blocks = s'.entryDivergences blocks' := by
    rw [entryDivergences_eq, entryDivergences_eq, hentries]
  have hcontracts : s.contractDivergences blocks = s'.contractDivergences blocks' := by
    rw [contractDivergences, hvars, hmaps]
    rfl
  simp only [Report.toJson, Report.trieRoots, Report.contractsAgree, Report.nameOf, hroots, hagree,
    hdiverging, hcontracts]

/-- Nothing that goes by names and heights tells twins apart. -/
theorem alike (h : Twins s s') : Alike s s' :=
  ⟨h.environments, h.histories, h.blockView_eq, h.variableAt_eq, h.mapAt_eq, h.comparison_eq⟩

end Store.Twins

end ReplayLedger
