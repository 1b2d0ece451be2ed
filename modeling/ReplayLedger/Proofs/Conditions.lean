import ReplayLedger.Proofs.Names

/-!
# The conditions on a payload

A payload is looked at in phases: the block, its entries, the contracts that it deploys, the
invocations, the writes to variables and the writes to maps.  Within a phase its parts are looked at
in their order, and a part may only collide with the parts before it (`inTurn`).  This gives one list
of conditions, each with the error that tells that it is broken (`BlockPayload.conditions`).

A computation is *judged* by a list of conditions if it succeeds where they all hold, and else fails
with an error that tells the first one that is broken (`Judged`).  What is done in turn is judged by
the conditions in turn.

Read as a whole, the conditions make a property of the payload and of the store that it comes to
(`BlockPayload.Admissible`): among other things, certain lists have no duplicates.  The two agree
(`BlockPayload.conditions_hold_iff`).
The errors that tell a broken condition are of few kinds (`BlockPayload.conditions_tellsOnly`).
-/

namespace ReplayLedger

/-! ## Lists of conditions -/

/-- A condition, and the errors that tell that it is broken. -/
structure Condition where
  holds : Prop
  tells : Error → Prop

/-- A condition with a single error. -/
def Condition.must (p : Prop) (e : Error) : Condition := ⟨p, (· = e)⟩

/-- All conditions of a list hold. -/
def AllHold (conditions : List Condition) : Prop := ∀ c ∈ conditions, c.holds

@[simp] lemma allHold_nil : AllHold [] := by simp [AllHold]

/-- A list of conditions holds if the first does and the others do. -/
@[simp] lemma allHold_cons {c : Condition} {conditions : List Condition} :
    AllHold (c :: conditions) ↔ c.holds ∧ AllHold conditions := by
  simp [AllHold]

/-- Two lists of conditions hold together if each does. -/
@[simp] lemma allHold_append {conditions conditions' : List Condition} :
    AllHold (conditions ++ conditions') ↔ AllHold conditions ∧ AllHold conditions' := by
  simp [AllHold, or_imp, forall_and]

/-- An error tells the first condition of a list that is broken. -/
def TellsFirst (conditions : List Condition) (e : Error) : Prop :=
  ∃ before broken after, conditions = before ++ broken :: after ∧ AllHold before ∧
    ¬ broken.holds ∧ broken.tells e

/-- Conditions on parts that are looked at one after the other, where those on a part may depend on
the parts before it. -/
def inTurn {γ : Type} (conditions : List γ → γ → List Condition) (earlier : List γ) :
    List γ → List Condition
  | [] => []
  | part :: rest => conditions earlier part ++ inTurn conditions (earlier ++ [part]) rest

section InTurn

variable {γ κ : Type} {conditions : List γ → γ → List Condition} {good : γ → Prop}

/-- Conditions on the parts alone hold in turn if they hold of every part. -/
lemma allHold_inTurn (h : ∀ earlier part, AllHold (conditions earlier part) ↔ good part) :
    ∀ {earlier : List γ} (parts : List γ),
      AllHold (inTurn conditions earlier parts) ↔ ∀ part ∈ parts, good part
  | _, [] => by simp [inTurn]
  | _, part :: rest => by
    rw [inTurn, allHold_append, h, allHold_inTurn h rest, List.forall_mem_cons]

/-- Conditions in turn that no part shares its key with an earlier one make all keys distinct. -/
lemma allHold_inTurn_distinct {key : γ → κ}
    (h : ∀ earlier part, AllHold (conditions earlier part) ↔ good part ∧ key part ∉ earlier.map key) :
    ∀ {earlier : List γ} (parts : List γ), (earlier.map key).Nodup →
      (AllHold (inTurn conditions earlier parts) ↔
        (∀ part ∈ parts, good part) ∧ ((earlier ++ parts).map key).Nodup)
  | earlier, [], hearlier => by simp [inTurn, hearlier]
  | earlier, part :: rest, hearlier => by
    have hconcat : (earlier ++ part :: rest) = (earlier ++ [part]) ++ rest := by simp
    have hnodup : ((earlier ++ [part]).map key).Nodup ↔ key part ∉ earlier.map key := by
      rw [List.map_append, List.nodup_append]
      simp only [hearlier, List.map_cons, List.map_nil, List.nodup_singleton, true_and,
        List.mem_singleton, forall_eq]
      exact ⟨fun hne hmem => hne _ hmem rfl, fun hfree k hk hsame => hfree (hsame ▸ hk)⟩
    rw [inTurn, allHold_append, h, List.forall_mem_cons, hconcat]
    by_cases hfree : key part ∉ earlier.map key
    · rw [allHold_inTurn_distinct h rest (hnodup.2 hfree)]
      tauto
    · have hclash : ¬ (((earlier ++ [part]) ++ rest).map key).Nodup := by
        rw [List.map_append]
        exact fun hall => hfree (hnodup.1 (List.nodup_append.1 hall).1)
      tauto

end InTurn

/-- The errors that tell a broken condition of a list are all of the given kinds. -/
def TellsOnly (kinds : List ErrorKind) (conditions : List Condition) : Prop :=
  ∀ c ∈ conditions, ∀ e, c.tells e → e.kind ∈ kinds

namespace TellsOnly

variable {kinds : List ErrorKind} {conditions conditions' : List Condition}

lemma nil : TellsOnly kinds [] := by simp [TellsOnly]

/-- A condition goes ahead of others. -/
lemma cons {c : Condition} (hc : ∀ e, c.tells e → e.kind ∈ kinds) (h : TellsOnly kinds conditions) :
    TellsOnly kinds (c :: conditions) :=
  List.forall_mem_cons.2 ⟨hc, h⟩

/-- A condition with a single error goes ahead of others if the error is of the kinds. -/
lemma must {p : Prop} {e : Error} (he : e.kind ∈ kinds) (h : TellsOnly kinds conditions) :
    TellsOnly kinds (.must p e :: conditions) := by
  refine cons ?_ h
  rintro _ rfl
  exact he

/-- One list of conditions goes ahead of another. -/
lemma append (h : TellsOnly kinds conditions) (h' : TellsOnly kinds conditions') :
    TellsOnly kinds (conditions ++ conditions') :=
  List.forall_mem_append.2 ⟨h, h'⟩

/-- Conditions in turn tell what those on a single part tell. -/
lemma inTurn {γ : Type} {conditions : List γ → γ → List Condition}
    (h : ∀ earlier part, TellsOnly kinds (conditions earlier part)) :
    ∀ (earlier parts : List γ), TellsOnly kinds (inTurn conditions earlier parts)
  | _, [] => nil
  | earlier, part :: rest => (h earlier part).append (inTurn h (earlier ++ [part]) rest)

end TellsOnly

/-! ## Judged computations -/

namespace TellsFirst

variable {conditions conditions' : List Condition} {e : Error}

/-- If an error tells a broken condition, not all of them hold. -/
lemma not_allHold (h : TellsFirst conditions e) : ¬ AllHold conditions := by
  obtain ⟨before, broken, after, rfl, -, hbroken, -⟩ := h
  exact fun hall => hbroken (hall broken (by simp))

/-- The first broken condition is the first one of a longer list. -/
lemma append_right (h : TellsFirst conditions e) : TellsFirst (conditions ++ conditions') e := by
  obtain ⟨before, broken, after, rfl, hbefore, hbroken, htells⟩ := h
  exact ⟨before, broken, after ++ conditions', by simp, hbefore, hbroken, htells⟩

/-- The first broken condition after conditions that hold is the first one of them all. -/
lemma append_left (hall : AllHold conditions) (h : TellsFirst conditions' e) :
    TellsFirst (conditions ++ conditions') e := by
  obtain ⟨before, broken, after, rfl, hbefore, hbroken, htells⟩ := h
  exact ⟨conditions ++ before, broken, after, by simp, allHold_append.2 ⟨hall, hbefore⟩, hbroken,
    htells⟩

end TellsFirst

/-- A computation succeeds, where all conditions hold, or it fails and tells the first one that is
broken. -/
inductive Judged {α : Type} (R : α → Prop) (conditions : List Condition) : Except Error α → Prop
  | accept {a : α} : AllHold conditions → R a → Judged R conditions (.ok a)
  | refuse {e : Error} : TellsFirst conditions e → Judged R conditions (.error e)

namespace Judged

variable {α β γ : Type} {R : α → Prop} {Q : β → Prop} {conditions conditions' : List Condition}

/-- A result that is there already is subject to no condition. -/
lemma done {a : α} (h : R a) : Judged R [] (.ok a) := .accept allHold_nil h

/-- Conditions that are known to hold go ahead of the others. -/
lemma after {y : Except Error β} (hall : AllHold conditions) (h : Judged Q conditions' y) :
    Judged Q (conditions ++ conditions') y := by
  cases h with
  | accept hall' hb => exact .accept (allHold_append.2 ⟨hall, hall'⟩) hb
  | refuse htells => exact .refuse (htells.append_left hall)

/-- What is done in turn is judged by the conditions in turn. -/
lemma bind {x : Except Error α} {f : α → Except Error β} (h : Judged R conditions x)
    (hnext : ∀ a, R a → Judged Q conditions' (f a)) : Judged Q (conditions ++ conditions') (x >>= f) := by
  cases h with
  | refuse htells => exact .refuse htells.append_right
  | accept hall ha => exact (hnext _ ha).after hall

/-- A check judges the condition that it checks. -/
lemma ensure {p q : Prop} [Decidable p] {e : Error} {tells : Error → Prop}
    {f : Unit → Except Error β} (hpq : p ↔ q) (htells : tells e)
    (hnext : p → Judged Q conditions (f ())) :
    Judged Q (⟨q, tells⟩ :: conditions) (ReplayLedger.ensure p e >>= f) := by
  by_cases hp : p
  · have hcheck : ReplayLedger.ensure p e = .ok () := ensure_eq_ok.2 hp
    have hjudged : Judged (fun _ => True) [⟨q, tells⟩] (ReplayLedger.ensure p e) := by
      rw [hcheck]
      exact .accept (by simpa using hpq.1 hp) trivial
    exact hjudged.bind fun _ _ => hnext hp
  · have hcheck : ReplayLedger.ensure p e = .error e := if_neg hp
    rw [hcheck]
    exact .refuse ⟨[], ⟨q, tells⟩, conditions, rfl, allHold_nil, fun hq => hp (hpq.2 hq), htells⟩

/-- What is known of the result from elsewhere. -/
lemma mono {x : Except Error α} {R' : α → Prop} (h : Judged R conditions x)
    (hresult : ∀ a, x = .ok a → R a → R' a) : Judged R' conditions x := by
  cases h with
  | accept hall ha => exact .accept hall (hresult _ rfl ha)
  | refuse htells => exact .refuse htells

/-- A loop is judged by the conditions on its parts in turn. -/
lemma foldlM {R : List γ → α → Prop} {conditions : List γ → γ → List Condition}
    {f : α → γ → Except Error α}
    (hstep : ∀ earlier a part, R earlier a →
      Judged (R (earlier ++ [part])) (conditions earlier part) (f a part)) (parts : List γ) :
    ∀ {earlier : List γ} {a : α}, R earlier a →
      Judged (R (earlier ++ parts)) (inTurn conditions earlier parts) (parts.foldlM f a) := by
  induction parts with
  | nil =>
    intro earlier a ha
    rw [List.append_nil]
    exact .done ha
  | cons part rest ih =>
    intro earlier a ha
    have hsplit : earlier ++ part :: rest = (earlier ++ [part]) ++ rest := by simp
    rw [List.foldlM_cons, inTurn, hsplit]
    exact (hstep earlier a part ha).bind fun a' ha' => ih ha'

/-- A judged computation succeeds exactly if the conditions hold. -/
lemma exists_ok_iff {x : Except Error α} (h : Judged R conditions x) :
    (∃ a, x = .ok a) ↔ AllHold conditions := by
  cases h with
  | accept hall _ => exact ⟨fun _ => hall, fun _ => ⟨_, rfl⟩⟩
  | refuse htells =>
    refine ⟨?_, fun hall => absurd hall htells.not_allHold⟩
    rintro ⟨a, ha⟩
    cases ha

/-- A judged computation fails with an error that tells the first condition that is broken. -/
lemma tellsFirst {e : Error} (h : Judged R conditions (.error e)) : TellsFirst conditions e := by
  cases h with
  | refuse htells => exact htells

end Judged

/-! ## The conditions on a payload -/

/-- An environment has a contract under an identifier. -/
def Store.HasContract (s : Store) (environment : Int) (qualifiedId : String) : Prop :=
  ∃ row ∈ s.contracts, row.environmentId = environment ∧ row.qualifiedId = qualifiedId

namespace BlockPayload

variable (s : Store) (owner : Environment) (payload : BlockPayload)

/-- A contract that the parts of a payload may name: the environment has it, or the payload deploys
it. -/
def Knows (qualifiedId : String) : Prop :=
  s.HasContract owner.id qualifiedId ∨ qualifiedId ∈ payload.contracts.map (·.qualifiedId)

/-- The conditions on the block itself. -/
def blockConditions : List Condition :=
  [.must (payload.indexHash ≠ []) (.emptyBytes "index_hash"),
    .must (payload.trieRoot ≠ []) (.emptyBytes "trie_root_hash"),
    ⟨∀ reached, owner.maxHeight = some reached → reached < payload.height, fun e =>
      ∃ reached, owner.maxHeight = some reached ∧
        e = .heightNotAdvancing owner.id payload.height reached⟩,
    .must (∀ row ∈ s.blocks, row.environmentId = owner.id → row.indexHash ≠ payload.indexHash)
      (.blockRecorded payload.indexHash owner.id)]

/-- The conditions on an entry of the block. -/
def entryConditions (block : Int) (earlier : List EntryWrite) (write : EntryWrite) : List Condition :=
  [.must (write.keyHash ≠ []) (.emptyBytes "key_hash"),
    .must (write.keyHash ∉ earlier.map (·.keyHash)) (.entryTaken block write.keyHash)]

/-- The conditions on a deployment. -/
def deploymentConditions (earlier : List Deployment) (deployment : Deployment) : List Condition :=
  [.must (¬ Text.IsBlankText deployment.qualifiedId) (.blankName "qualified_id"),
    .must (¬ s.HasContract owner.id deployment.qualifiedId ∧
        deployment.qualifiedId ∉ earlier.map (·.qualifiedId))
      (.contractDeployed deployment.qualifiedId owner.id)]

/-- The conditions on an invocation at the block. -/
def invocationConditions (block : Int) (earlier : List Invocation) (invocation : Invocation) :
    List Condition :=
  [.must (payload.Knows s owner invocation.contract)
      (.contractNotDeployed invocation.contract owner.name),
    .must (invocation.transactionId ≠ []) (.emptyBytes "tx_id"),
    ⟨invocation ∉ earlier, fun e =>
      ∃ contract, e = .executionLogged invocation.transactionId contract block⟩]

/-- The conditions on a write to a variable. -/
def variableConditions (write : VariableWrite) : List Condition :=
  [.must (⟨write.contract, write.transactionId⟩ ∈ payload.executions)
      (.writerNotExecuted write.key write.contract write.transactionId),
    .must (¬ Text.IsBlankText write.key) (.blankName "key")]

/-- The conditions on a write to a map at the block. -/
def mapConditions (block : Int) (earlier : List MapWrite) (write : MapWrite) : List Condition :=
  [.must (payload.Knows s owner write.contract) (.contractNotDeployed write.contract owner.name),
    .must (¬ Text.IsBlankText write.name) (.blankName "name"),
    .must (write.keyHash ≠ []) (.emptyBytes "key_hash"),
    ⟨write.slot ∉ earlier.map (·.slot), fun e =>
      ∃ map, e = .mapEntryTaken map write.keyHash block⟩]

/-- All conditions on a payload for an environment, in the order in which they are looked at.  The
block will have the next id. -/
def conditions : List Condition :=
  let block := nextId (s.blocks.map (·.id))
  payload.blockConditions s owner
    ++ inTurn (entryConditions block) [] payload.entries
    ++ inTurn (deploymentConditions s owner) [] payload.contracts
    ++ inTurn (payload.invocationConditions s owner block) [] payload.executions
    ++ inTurn (fun _ => payload.variableConditions) [] payload.varWrites
    ++ inTurn (payload.mapConditions s owner block) [] payload.mapWrites

/-- A payload that an environment can take in. -/
structure Admissible : Prop where
  indexHash : payload.indexHash ≠ []
  trieRoot : payload.trieRoot ≠ []
  above : ∀ reached, owner.maxHeight = some reached → reached < payload.height
  newHash : ∀ row ∈ s.blocks, row.environmentId = owner.id → row.indexHash ≠ payload.indexHash
  entryKeys : ∀ write ∈ payload.entries, write.keyHash ≠ []
  distinctEntries : (payload.entries.map (·.keyHash)).Nodup
  contractNames : ∀ deployment ∈ payload.contracts, ¬ Text.IsBlankText deployment.qualifiedId
  newContracts : ∀ deployment ∈ payload.contracts, ¬ s.HasContract owner.id deployment.qualifiedId
  distinctContracts : (payload.contracts.map (·.qualifiedId)).Nodup
  invoked : ∀ invocation ∈ payload.executions, payload.Knows s owner invocation.contract
  transactions : ∀ invocation ∈ payload.executions, invocation.transactionId ≠ []
  distinctExecutions : payload.executions.Nodup
  writers : ∀ write ∈ payload.varWrites,
    ⟨write.contract, write.transactionId⟩ ∈ payload.executions
  variableKeys : ∀ write ∈ payload.varWrites, ¬ Text.IsBlankText write.key
  mapContracts : ∀ write ∈ payload.mapWrites, payload.Knows s owner write.contract
  mapNames : ∀ write ∈ payload.mapWrites, ¬ Text.IsBlankText write.name
  mapKeys : ∀ write ∈ payload.mapWrites, write.keyHash ≠ []
  distinctSlots : (payload.mapWrites.map (·.slot)).Nodup

variable {s owner payload}

/-- The entries of a payload collide with each other only, as their block is new. -/
lemma entries_hold_iff {block : Int} (writes : List EntryWrite) :
    AllHold (inTurn (entryConditions block) [] writes) ↔
      (∀ write ∈ writes, write.keyHash ≠ []) ∧ (writes.map (·.keyHash)).Nodup := by
  refine allHold_inTurn_distinct (fun earlier write => ?_) writes List.nodup_nil
  simp [entryConditions, Condition.must]

/-- Contracts collide with those of the environment and with each other. -/
lemma deployments_hold_iff (deployments : List Deployment) :
    AllHold (inTurn (deploymentConditions s owner) [] deployments) ↔
      (∀ deployment ∈ deployments, ¬ Text.IsBlankText deployment.qualifiedId ∧
        ¬ s.HasContract owner.id deployment.qualifiedId) ∧
      (deployments.map (·.qualifiedId)).Nodup := by
  refine allHold_inTurn_distinct (fun earlier deployment => ?_) deployments List.nodup_nil
  simp [deploymentConditions, Condition.must, and_assoc]

/-- Invocations collide with each other only, in a contract and a transaction at once. -/
lemma invocations_hold_iff {block : Int} (invocations : List Invocation) :
    AllHold (inTurn (payload.invocationConditions s owner block) [] invocations) ↔
      (∀ invocation ∈ invocations, payload.Knows s owner invocation.contract ∧
        invocation.transactionId ≠ []) ∧ invocations.Nodup := by
  have hself : invocations.Nodup ↔ (([] ++ invocations).map id).Nodup := by simp
  rw [hself]
  refine allHold_inTurn_distinct (fun earlier invocation => ?_) invocations List.nodup_nil
  simp [invocationConditions, Condition.must, and_assoc]

/-- Writes to maps collide with each other only, in their slots. -/
lemma mapWrites_hold_iff {block : Int} (writes : List MapWrite) :
    AllHold (inTurn (payload.mapConditions s owner block) [] writes) ↔
      (∀ write ∈ writes, payload.Knows s owner write.contract ∧ ¬ Text.IsBlankText write.name ∧
        write.keyHash ≠ []) ∧ (writes.map (·.slot)).Nodup := by
  refine allHold_inTurn_distinct (fun earlier write => ?_) writes List.nodup_nil
  simp [mapConditions, Condition.must, and_assoc]

/-- Writes to variables never collide: each of them has its own row. -/
lemma varWrites_hold_iff (writes : List VariableWrite) :
    AllHold (inTurn (fun _ => payload.variableConditions) [] writes) ↔
      ∀ write ∈ writes, ⟨write.contract, write.transactionId⟩ ∈ payload.executions ∧
        ¬ Text.IsBlankText write.key := by
  refine allHold_inTurn (fun earlier write => ?_) writes
  simp [variableConditions, Condition.must]

/-- The conditions, taken together, say that the payload is admissible. -/
lemma conditions_hold_iff : AllHold (payload.conditions s owner) ↔ payload.Admissible s owner := by
  simp only [conditions, allHold_append, entries_hold_iff, deployments_hold_iff, invocations_hold_iff,
    varWrites_hold_iff, mapWrites_hold_iff, blockConditions, Condition.must, allHold_cons, allHold_nil,
    and_true, forall_and]
  constructor
  · rintro ⟨⟨⟨⟨⟨⟨hindex, hroot, habove, hhash⟩, hkeys, hentries⟩, ⟨hnames, hnew⟩, hcontracts⟩,
      ⟨hinvoked, htransactions⟩, hexecutions⟩, hwriters, hvars⟩, ⟨hmapContracts, hmapNames, hmapKeys⟩,
      hslots⟩
    exact ⟨hindex, hroot, habove, hhash, hkeys, hentries, hnames, hnew, hcontracts, hinvoked,
      htransactions, hexecutions, hwriters, hvars, hmapContracts, hmapNames, hmapKeys, hslots⟩
  · intro h
    exact ⟨⟨⟨⟨⟨⟨h.indexHash, h.trieRoot, h.above, h.newHash⟩, h.entryKeys, h.distinctEntries⟩,
      ⟨h.contractNames, h.newContracts⟩, h.distinctContracts⟩, ⟨h.invoked, h.transactions⟩,
      h.distinctExecutions⟩, h.writers, h.variableKeys⟩,
      ⟨h.mapContracts, h.mapNames, h.mapKeys⟩, h.distinctSlots⟩

/-- The kinds of errors with which a payload that has the required shape can be refused. -/
def refusals : List ErrorKind :=
  [.validation, .heightOutOfOrder, .duplicateBlock, .conflict, .duplicateContract, .unknownReference,
    .duplicateExecution]

/-- The conditions on a payload tell errors of these kinds alone. -/
lemma conditions_tellsOnly (s : Store) (owner : Environment) (payload : BlockPayload) :
    TellsOnly refusals (payload.conditions s owner) := by
  have hvalidation : ErrorKind.validation ∈ refusals := by decide
  have horder : ErrorKind.heightOutOfOrder ∈ refusals := by decide
  have hblock : ErrorKind.duplicateBlock ∈ refusals := by decide
  have hconflict : ErrorKind.conflict ∈ refusals := by decide
  have hcontract : ErrorKind.duplicateContract ∈ refusals := by decide
  have hunknown : ErrorKind.unknownReference ∈ refusals := by decide
  have hexecution : ErrorKind.duplicateExecution ∈ refusals := by decide
  refine .append (.append (.append (.append (.append ?block ?entries) ?deployments) ?invocations)
    ?varWrites) ?mapWrites
  case block =>
    refine .must hvalidation (.must hvalidation (.cons ?_ (.must hblock .nil)))
    rintro e ⟨reached, -, rfl⟩
    exact horder
  case entries => exact .inTurn (fun _ _ => .must hvalidation (.must hconflict .nil)) _ _
  case deployments => exact .inTurn (fun _ _ => .must hvalidation (.must hcontract .nil)) _ _
  case invocations =>
    refine .inTurn (fun _ _ => .must hunknown (.must hvalidation (.cons ?_ .nil))) _ _
    rintro e ⟨contract, rfl⟩
    exact hexecution
  case varWrites => exact .inTurn (fun _ _ => .must hunknown (.must hvalidation .nil)) _ _
  case mapWrites =>
    refine .inTurn (fun _ _ =>
      .must hunknown (.must hvalidation (.must hvalidation (.cons ?_ .nil)))) _ _
    rintro e ⟨map, rfl⟩
    exact hconflict

end BlockPayload

end ReplayLedger
