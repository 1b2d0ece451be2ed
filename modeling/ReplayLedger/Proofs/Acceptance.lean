import ReplayLedger.Proofs.Answers

/-!
# What a history accepts

Whether an environment accepts a payload, and with which kind of error it refuses it, depends on
its history alone.  `History.apply` says how: it makes the checks of the store in their order, but
on names, and adds the parts of the payload to the history.

The single writes of the store follow it: a write is accepted exactly if the history of its
environment accepts it, with the history after it as the result, and else it fails with an error of
the same kind (`Agrees`).  The histories of the other environments stay as they are
(`Store.Grows`).
-/

namespace ReplayLedger

/-! ## Checks on a history -/

/-- Goes on only where a condition holds. -/
def demand (p : Prop) [Decidable p] (kind : ErrorKind) : Except ErrorKind Unit :=
  if p then .ok () else .error kind

/-- A demand passes if it is met. -/
@[simp] lemma demand_eq_ok {p : Prop} [Decidable p] {kind : ErrorKind} {u : Unit} :
    demand p kind = .ok u ↔ p := by
  unfold demand
  split <;> simp_all

/-- Adds a name unless it is known. -/
def declare {α : Type} [DecidableEq α] (known : List α) (name : α) : List α :=
  if name ∈ known then known else known ++ [name]

namespace History

/-- Records a block that advances the environment, under a hash and at a height that are new. -/
def recordBlock (history : History) (facts : BlockFacts) : Except ErrorKind History := do
  demand (0 ≤ facts.height) .validation
  demand (facts.indexHash ≠ []) .validation
  demand (facts.trieRoot ≠ []) .validation
  demand (history.maxHeight.all (· < facts.height)) .heightOutOfOrder
  demand (∀ block ∈ history.blocks, block.indexHash ≠ facts.indexHash) .duplicateBlock
  demand (Storable facts.height) .overflow
  demand (facts.height ∉ history.blocks.map (·.height)) .duplicateBlock
  return { history with maxHeight := some facts.height, blocks := history.blocks ++ [facts] }

/-- Writes an entry whose key is new at the block. -/
def writeEntry (height : Int) (history : History) (write : EntryWrite) :
    Except ErrorKind History := do
  demand (write.keyHash ≠ []) .validation
  demand ((height, write.keyHash) ∉ history.entryKeys) .conflict
  return { history with entries := history.entries ++ [(height, write)] }

/-- Deploys a contract whose identifier is new. -/
def deploy (height : Int) (history : History) (deployment : Deployment) :
    Except ErrorKind History := do
  demand (¬ Text.IsBlankText deployment.qualifiedId) .validation
  demand (deployment.qualifiedId ∉ history.contractNames) .duplicateContract
  return { history with contracts := history.contracts ++ [(height, deployment)] }

/-- Logs an invocation of a known contract, once at a block. -/
def invoke (height : Int) (history : History) (invocation : Invocation) :
    Except ErrorKind History := do
  demand (invocation.contract ∈ history.contractNames) .unknownReference
  demand (invocation.transactionId ≠ []) .validation
  demand ((height, invocation) ∉ history.executions) .duplicateExecution
  return { history with executions := history.executions ++ [(height, invocation)] }

/-- Writes a variable for a transaction that invoked its contract at the block. -/
def writeVariable (height : Int) (history : History) (write : VariableWrite) :
    Except ErrorKind History := do
  demand ((height, ⟨write.contract, write.transactionId⟩) ∈ history.executions) .unknownReference
  demand (write.slot ∈ history.vars ∨ ¬ Text.IsBlankText write.key) .validation
  return { history with
    vars := declare history.vars write.slot
    varWrites := history.varWrites ++ [(height, write)] }

/-- Writes a key of a map of a known contract, once at a block. -/
def writeMap (height : Int) (history : History) (write : MapWrite) : Except ErrorKind History := do
  demand (write.contract ∈ history.contractNames) .unknownReference
  demand (write.map ∈ history.maps ∨ ¬ Text.IsBlankText write.name) .validation
  demand (write.keyHash ≠ []) .validation
  demand ((height, write.slot) ∉ history.mapKeys) .conflict
  return { history with
    maps := declare history.maps write.map
    mapWrites := history.mapWrites ++ [(height, write)] }

/-- Takes in a whole payload, or nothing at all. -/
def apply (history : History) (payload : BlockPayload) : Except ErrorKind History := do
  let history ← history.recordBlock ⟨payload.height, payload.indexHash, payload.trieRoot⟩
  let history ← payload.entries.foldlM (writeEntry payload.height) history
  let history ← payload.contracts.foldlM (deploy payload.height) history
  let history ← payload.executions.foldlM (invoke payload.height) history
  let history ← payload.varWrites.foldlM (writeVariable payload.height) history
  payload.mapWrites.foldlM (writeMap payload.height) history

end History

/-! ## Agreement of two computations -/

/-- Both computations succeed, with results that belong together, or both fail with errors of one
kind. -/
inductive Agrees {α β : Type} (R : α → β → Prop) : Except Error α → Except ErrorKind β → Prop
  | ok {a : α} {b : β} : R a b → Agrees R (.ok a) (.ok b)
  | error {e : Error} : Agrees R (.error e) (.error e.kind)

namespace Agrees

variable {α β α' β' γ : Type} {R : α → β → Prop} {Q : α' → β' → Prop}

/-- Computations that agree part by part agree. -/
lemma bind {x : Except Error α} {y : Except ErrorKind β} {f : α → Except Error α'}
    {g : β → Except ErrorKind β'} (h : Agrees R x y) (hnext : ∀ a b, R a b → Agrees Q (f a) (g b)) :
    Agrees Q (x >>= f) (y >>= g) := by
  cases h with
  | ok hab => exact hnext _ _ hab
  | error => exact .error

/-- The same check on both sides. -/
lemma ensure {p q : Prop} [Decidable p] [Decidable q] {e : Error} {kind : ErrorKind}
    {f : Unit → Except Error α'} {g : Unit → Except ErrorKind β'} (hpq : p ↔ q)
    (hkind : e.kind = kind) (hnext : p → Agrees Q (f ()) (g ())) :
    Agrees Q (ReplayLedger.ensure p e >>= f) (demand q kind >>= g) := by
  by_cases hp : p
  · rw [ReplayLedger.ensure, if_pos hp, demand, if_pos (hpq.1 hp)]
    exact hnext hp
  · rw [ReplayLedger.ensure, if_neg hp, demand, if_neg fun hq => hp (hpq.2 hq), ← hkind]
    exact .error

/-- A success of one side is one of the other. -/
lemma of_ok {x : Except Error α} {b : β} (h : Agrees R x (.ok b)) : ∃ a, x = .ok a ∧ R a b := by
  cases h with
  | ok hab => exact ⟨_, rfl, hab⟩

/-- What is accepted on one side is accepted on the other. -/
lemma of_accepted {a : α} {y : Except ErrorKind β} (h : Agrees R (.ok a) y) :
    ∃ b, y = .ok b ∧ R a b := by
  cases h with
  | ok hab => exact ⟨_, rfl, hab⟩

/-- What is refused on one side is refused on the other. -/
lemma of_refused {x : Except Error α} {kind : ErrorKind} (h : Agrees R x (.error kind)) :
    ∃ e, x = .error e := by
  cases h with
  | error => exact ⟨_, rfl⟩

/-- What follows for the results. -/
lemma mono {x : Except Error α} {y : Except ErrorKind β} {Q : α → β → Prop} (h : Agrees R x y)
    (hresult : ∀ a b, y = .ok b → R a b → Q a b) : Agrees Q x y := by
  cases h with
  | ok hab => exact .ok (hresult _ _ rfl hab)
  | error => exact .error

/-- What is made of the result of one side. -/
lemma map {x : Except Error α} {y : Except ErrorKind β} {Q : α' → β → Prop} {f : α → α'}
    (h : Agrees R x y) (hresult : ∀ a b, y = .ok b → R a b → Q (f a) b) :
    Agrees Q (x >>= fun a => pure (f a)) y := by
  cases h with
  | ok hab => exact .ok (hresult _ _ rfl hab)
  | error => exact .error

/-- A relation that every step keeps is kept by the whole loop. -/
lemma foldlM {f : α → γ → Except Error α} {g : β → γ → Except ErrorKind β}
    (hstep : ∀ a b part, R a b → Agrees R (f a part) (g b part)) (parts : List γ) :
    ∀ {a : α} {b : β}, R a b → Agrees R (parts.foldlM f a) (parts.foldlM g b) := by
  induction parts with
  | nil => exact fun hab => .ok hab
  | cons part rest ih =>
    intro a b hab
    rw [List.foldlM_cons, List.foldlM_cons]
    exact (hstep a b part hab).bind fun a' b' hab' => ih hab'

end Agrees

/-! ## Writes to one environment -/

namespace Store

variable {s s' : Store} {environment block contract height : Int}

/-- A store that has grown in one environment, whose history is then the given one. -/
structure Grows (s : Store) (environment : Int) (history : History) (s' : Store) : Prop where
  consistent : s'.Consistent
  rows : Extends s s'
  own : s'.history environment = history
  others : ∀ other, other ≠ environment → s'.history other = s.history other
  identities : s'.environments.map Environment.identity = s.environments.map Environment.identity

/-- A history that is written on is written on from where it was. -/
lemma Grows.trans {s₁ s₂ s₃ : Store} {history history' : History}
    (h : Grows s₁ environment history s₂) (h' : Grows s₂ environment history' s₃) :
    Grows s₁ environment history' s₃ :=
  ⟨h'.consistent, h.rows.trans h'.rows, h'.own,
    fun other hother => (h'.others other hother).trans (h.others other hother),
    h'.identities.trans h.identities⟩

/-- A block that is found is found when it is referred to. -/
lemma referencedBlock_of_block? {row : Block} (h : s.block? block = some row) :
    s.referencedBlock block = .ok row := by
  rw [referencedBlock, storableId_of_find? h, h]
  rfl

/-- An environment advances exactly if it has not reached the height. -/
lemma advances_agrees (owner : Environment) (height : Int) :
    Agrees (fun _ _ => ∀ reached, owner.maxHeight = some reached → reached < height)
      (owner.advances height)
      (demand (owner.maxHeight.all (· < height)) .heightOutOfOrder) := by
  unfold Environment.advances
  cases owner.maxHeight with
  | none =>
    rw [demand, if_pos (by simp)]
    exact .ok (by simp)
  | some reached =>
    simp only [ensure, demand, Option.all_some, decide_eq_true_eq, Option.some.injEq, forall_eq']
    by_cases h : reached < height
    · rw [if_pos h, if_pos h]
      exact .ok h
    · rw [if_neg h, if_neg h]
      exact .error

namespace Consistent

/-- A block is recorded exactly if the history of its environment lets it be. -/
lemma recordBlock_agrees (hs : s.Consistent) {owner : Environment}
    (owned : s.environment? environment = some owner) (facts : BlockFacts) :
    Agrees (fun r history => Grows s environment history r.2 ∧
        r.2.place? r.1 = some (environment, facts.height))
      (s.recordBlock environment (.int facts.height) (.bytes facts.indexHash) (.bytes facts.trieRoot))
      ((s.history environment).recordBlock facts) := by
  have hlive : storableId (s.environments.map (·.id)) environment = .ok () :=
    storableId_of_find? owned
  have hreached : (s.history environment).maxHeight = owner.maxHeight := by
    simp [history, owned]
  simp only [recordBlock, BlockFacts.ofValues, checkBlock, advance, insertBlock, height_int,
    nonEmptyBytes_bytes, hlive, owned, require, ok_bind, bind_assoc, pure_bind, storable,
    History.recordBlock, hreached]
  -- the checks in the order in which the call makes them
  refine .ensure Iff.rfl rfl fun hpos => .ensure Iff.rfl rfl fun _ => .ensure Iff.rfl rfl fun _ => ?_
  refine (advances_agrees owner facts.height).bind fun _ _ hadvances => ?_
  refine .ensure blockWithHash?_eq_none rfl fun hhash => .ensure Iff.rfl rfl fun hrange => ?_
  refine .ensure (blockAt?_eq_none (s := s)) rfl fun hheight => .ok ?_
  -- all have passed: the row that is added, and what it adds to the histories
  let row : Block :=
    ⟨nextId (s.blocks.map (·.id)), environment, facts.height, facts.indexHash, facts.trieRoot⟩
  have hchange := Change.addBlock row owner rfl owned hadvances ⟨hpos, hrange⟩ hhash hheight
  have hs' := hs.change hchange
  refine ⟨⟨hs', ⟨find?_concat, id, id, id, id⟩, ?_, ?_, ?_⟩, ?_⟩
  · refine (history_addBlock environment hs row owned).trans ?_
    simp [row]
  · intro other hother
    refine (history_addBlock other hs row owned).trans ?_
    simp [row, Ne.symm hother]
  · exact map_identity_setMaxHeight
  · exact hs'.place?_of_mem (List.mem_append_right _ List.mem_cons_self)

/-- An entry is written exactly if the history of its environment lets it be. -/
lemma putEntry_agrees (hs : s.Consistent) (hplace : s.place? block = some (environment, height))
    (write : EntryWrite) :
    Agrees (fun r history => Grows s environment history r.2)
      (s.putEntry block (.bytes write.keyHash) (.bytes write.value))
      ((s.history environment).writeEntry height write) := by
  obtain ⟨home, hhome, rfl, rfl⟩ := place?_eq_some.1 hplace
  simp only [putEntry, nonEmptyBytes_bytes, bytes_bytes, referencedBlock_of_block? hhome, ok_bind,
    bind_assoc, History.writeEntry]
  refine .ensure Iff.rfl rfl fun _ => .ensure (hs.entry?_eq_none hplace) rfl fun hfree => .ok ?_
  have hchange := Change.addEntry ⟨nextId (s.entries.map (·.id)), block, write.keyHash, write.value⟩
    home rfl hhome hfree
  refine ⟨hs.change hchange, ⟨id, id, id, id, id⟩, ?_, ?_, rfl⟩
  · rw [history_addEntry hs hhome]
    simp
  · intro other hother
    rw [history_addEntry hs hhome]
    simp [Ne.symm hother]

/-- A contract is deployed exactly if the history of its environment lets it be. -/
lemma registerContract_agrees (hs : s.Consistent)
    (hplace : s.place? block = some (environment, height)) (deployment : Deployment) :
    Agrees (fun r history => Grows s environment history r.2 ∧
        r.2.contractName? r.1 = some (environment, deployment.qualifiedId))
      (s.registerContract block (.text deployment.qualifiedId) (.bytes deployment.source))
      ((s.history environment).deploy height deployment) := by
  obtain ⟨home, hhome, rfl, rfl⟩ := place?_eq_some.1 hplace
  simp only [registerContract, name_text, encoded_text, bytes_bytes, referencedBlock_of_block? hhome,
    ok_bind, bind_assoc, History.deploy]
  refine .ensure Iff.rfl rfl fun _ => .ensure hs.contractNamed?_eq_none rfl fun hfree => .ok ?_
  have hchange := Change.addContract ⟨nextId (s.contracts.map (·.id)), home.environmentId, block,
    deployment.qualifiedId, deployment.source⟩ home rfl hhome rfl hfree
  have hs' := hs.change hchange
  refine ⟨⟨hs', ⟨id, find?_concat, id, id, id⟩, ?_, ?_, rfl⟩, ?_⟩
  · rw [history_addContract hs hhome]
    simp
  · intro other hother
    rw [history_addContract hs hhome]
    simp [Ne.symm hother]
  · exact hs'.contractName?_of_mem (List.mem_append_right _ List.mem_cons_self)

/-- An execution is logged exactly if the history of its environment lets it be. -/
lemma recordExecution_agrees (hs : s.Consistent)
    (hplace : s.place? block = some (environment, height)) (invocation : Invocation)
    (hname : s.contractName? contract = some (environment, invocation.contract)) :
    Agrees (fun r history => Grows s environment history r.2 ∧
        r.2.execution? r.1 = some ⟨r.1, block, contract, invocation.transactionId⟩)
      (s.recordExecution block contract (.bytes invocation.transactionId))
      (do
        demand (invocation.transactionId ≠ []) .validation
        demand ((height, invocation) ∉ (s.history environment).executions) .duplicateExecution
        return { s.history environment with
          executions := (s.history environment).executions ++ [(height, invocation)] }) := by
  obtain ⟨home, hhome, rfl, rfl⟩ := place?_eq_some.1 hplace
  obtain ⟨invoked, hinvoked, howned, hid⟩ := contractName?_eq_some.1 hname
  have hlive : storableId (s.contracts.map (·.id)) contract = .ok () :=
    storableId_of_find? hinvoked
  have hfound : (s.contract? contract).filter (fun row => row.environmentId = home.environmentId) =
      some invoked := by
    simp [hinvoked, howned]
  simp only [recordExecution, nonEmptyBytes_bytes, referencedBlock_of_block? hhome, hlive, hfound,
    require, ok_bind, bind_assoc]
  -- a second execution of one transaction is what the store refuses
  refine .ensure Iff.rfl rfl fun _ => .ensure (hs.executionOf?_eq_none hplace hname) rfl
    fun hfree => .ok ?_
  have hchange := Change.addExecution ⟨nextId (s.executions.map (·.id)), block, contract,
    invocation.transactionId⟩ home invoked rfl hhome hinvoked howned hfree
  have hs' := hs.change hchange
  refine ⟨⟨hs', ⟨id, id, find?_concat, id, id⟩, ?_, ?_, rfl⟩, ?_⟩
  · rw [history_addExecution hs hhome hinvoked, hid]
    simp
  · intro other hother
    rw [history_addExecution hs hhome hinvoked]
    simp [Ne.symm hother]
  · exact hs'.execution?_eq_some.2 ⟨List.mem_append_right _ List.mem_cons_self, rfl⟩

/-- A variable is declared exactly if its key is not blank. -/
lemma declareVariable_agrees (hs : s.Consistent) {slot : VariableSlot}
    (hname : s.contractName? contract = some (environment, slot.qualifiedId))
    (hfree : slot ∉ (s.history environment).vars) :
    Agrees (fun r history => Grows s environment history r.2 ∧
        r.2.variableName? r.1 = some (environment, slot))
      (s.declareVariable contract (.text slot.key))
      (do
        demand (¬ Text.IsBlankText slot.key) .validation
        return { s.history environment with vars := (s.history environment).vars ++ [slot] }) := by
  obtain ⟨owner, howner, rfl, hid⟩ := contractName?_eq_some.1 hname
  have hnone : s.variableNamed? contract slot.key = none := (hs.variableNamed?_eq_none hname _).2 hfree
  have hlive : storableId (s.contracts.map (·.id)) contract = .ok () := storableId_of_find? howner
  -- the store's own look at the key finds it free
  have hfreeKey : ensure (s.variableNamed? contract slot.key = none)
      (.variableDeclared contract slot.key) = .ok () := ensure_eq_ok.2 hnone
  simp only [declareVariable, referencedContract, name_text, encoded_text, hlive, howner, require,
    ok_bind, bind_assoc, hfreeKey]
  refine .ensure Iff.rfl rfl fun hnamed => .ok ?_
  let row : Variable := ⟨nextId (s.vars.map (·.id)), contract, slot.key⟩
  have hs' := hs.change (Change.addVariable row owner rfl howner hnone hnamed)
  have hext : Extends s { s with vars := s.vars ++ [row] } := ⟨id, id, id, find?_concat, id⟩
  refine ⟨⟨hs', hext, ?_, ?_, rfl⟩, ?_⟩
  · rw [history_addVariable hs howner, hid]
    simp
  · intro other hother
    rw [history_addVariable hs howner]
    simp [Ne.symm hother]
  · exact variableName?_eq_some.2
      ⟨_, hs'.variableWithId?_eq_some.2 ⟨List.mem_append_right _ List.mem_cons_self, rfl⟩,
        hext.contractName? hname, rfl⟩

/-- A value is always written by an execution of the variable's contract at the block. -/
lemma recordVariableInstance_grows (hs : s.Consistent)
    (hplace : s.place? block = some (environment, height)) {varId execution : Int}
    {slot : VariableSlot} (hname : s.variableName? varId = some (environment, slot))
    {writer : Execution} (hwriter : s.execution? execution = some writer)
    (hhere : writer.blockId = block)
    (hinvoked : s.contractName? writer.contractId = some (environment, slot.qualifiedId))
    (value : Bytes) :
    ∃ r, s.recordVariableInstance varId block execution (.bytes value) = .ok r ∧
      Grows s environment
        { s.history environment with
          varWrites := (s.history environment).varWrites ++
            [(height, ⟨slot.qualifiedId, slot.key, writer.transactionId, value⟩)] } r.2 := by
  obtain ⟨home, hhome, rfl, rfl⟩ := place?_eq_some.1 hplace
  obtain ⟨declared, hdeclared, hdeclarer, hkey⟩ := variableName?_eq_some.1 hname
  obtain ⟨owner, howner, howned, hid⟩ := contractName?_eq_some.1 hdeclarer
  have hown : writer.contractId = declared.contractId := (hs.contractName?_inj hdeclarer).1 hinvoked
  -- every id is live and of one environment, so no check of the call can fail
  have hchange := Change.addInstance
    ⟨nextId (s.instances.map (·.id)), varId, block, home.height, execution, value⟩ declared owner home
    writer rfl hdeclared howner hhome howned.symm rfl hwriter hhere hown
  refine ⟨(nextId (s.instances.map (·.id)), _), ?_, hs.change hchange, ⟨id, id, id, id, id⟩, ?_, ?_,
    rfl⟩
  · have hvar : storableId (s.vars.map (·.id)) varId = .ok () := storableId_of_find? hdeclared
    have hblock : storableId (s.blocks.map (·.id)) block = .ok () := storableId_of_find? hhome
    have hexecution : storableId (s.executions.map (·.id)) execution = .ok () :=
      storableId_of_find? hwriter
    have hvarOwner : s.variableOwner? varId = some (declared, owner) :=
      variableOwner?_eq_some.2 ⟨hdeclared, howner⟩
    simp only [recordVariableInstance, bytes_bytes, hvar, hvarOwner, ownedBlock, hblock, hexecution,
      hhome, hwriter, howned, hhere, hown, Option.filter_some, decide_true, if_true, require, ensure,
      ok_bind]
    rfl
  · rw [history_addInstance hs hdeclared howner hhome hwriter, hid, hkey]
    simp
  · intro other hother
    rw [history_addInstance hs hdeclared howner hhome hwriter]
    simp [Ne.symm hother]

/-- A map is declared exactly if its name is not blank. -/
lemma declareMap_agrees (hs : s.Consistent) {name : MapName}
    (hname : s.contractName? contract = some (environment, name.qualifiedId))
    (hfree : name ∉ (s.history environment).maps) :
    Agrees (fun r history => Grows s environment history r.2 ∧
        r.2.mapName? r.1 = some (environment, name))
      (s.declareMap contract (.text name.name))
      (do
        demand (¬ Text.IsBlankText name.name) .validation
        return { s.history environment with maps := (s.history environment).maps ++ [name] }) := by
  obtain ⟨owner, howner, rfl, hid⟩ := contractName?_eq_some.1 hname
  have hnone : s.mapNamed? contract name.name = none := (hs.mapNamed?_eq_none hname _).2 hfree
  have hlive : storableId (s.contracts.map (·.id)) contract = .ok () := storableId_of_find? howner
  have hfreeName : ensure (s.mapNamed? contract name.name = none)
      (.mapDeclared contract name.name) = .ok () := ensure_eq_ok.2 hnone
  simp only [declareMap, referencedContract, name_text, encoded_text, hlive, howner, require,
    ok_bind, bind_assoc, hfreeName]
  refine .ensure Iff.rfl rfl fun hnamed => .ok ?_
  let row : ContractMap := ⟨nextId (s.maps.map (·.id)), contract, name.name⟩
  have hs' := hs.change (Change.addMap row owner rfl howner hnone hnamed)
  have hext : Extends s { s with maps := s.maps ++ [row] } := ⟨id, id, id, id, find?_concat⟩
  refine ⟨⟨hs', hext, ?_, ?_, rfl⟩, ?_⟩
  · rw [history_addMap hs howner, hid]
    simp
  · intro other hother
    rw [history_addMap hs howner]
    simp [Ne.symm hother]
  · exact mapName?_eq_some.2
      ⟨_, hs'.map?_eq_some.2 ⟨List.mem_append_right _ List.mem_cons_self, rfl⟩,
        hext.contractName? hname, rfl⟩

/-- A key of a map is written exactly if the history of its environment lets it be. -/
lemma putMapEntry_agrees (hs : s.Consistent) (hplace : s.place? block = some (environment, height))
    {mapId : Int} {name : MapName} (hname : s.mapName? mapId = some (environment, name))
    (keyHash value : Bytes) :
    Agrees (fun r history => Grows s environment history r.2)
      (s.putMapEntry mapId block (.bytes keyHash) (.bytes value))
      (do
        demand (keyHash ≠ []) .validation
        demand ((height, ⟨name.qualifiedId, name.name, keyHash⟩) ∉ (s.history environment).mapKeys)
          .conflict
        return { s.history environment with
          mapWrites := (s.history environment).mapWrites ++
            [(height, ⟨name.qualifiedId, name.name, keyHash, value⟩)] }) := by
  obtain ⟨home, hhome, rfl, rfl⟩ := place?_eq_some.1 hplace
  obtain ⟨declared, hdeclared, hdeclarer, hdeclaredName⟩ := mapName?_eq_some.1 hname
  obtain ⟨owner, howner, howned, hid⟩ := contractName?_eq_some.1 hdeclarer
  have hmap : storableId (s.maps.map (·.id)) mapId = .ok () := storableId_of_find? hdeclared
  have hblock : storableId (s.blocks.map (·.id)) block = .ok () := storableId_of_find? hhome
  have hmapOwner : s.mapOwner? mapId = some (declared, owner) :=
    mapOwner?_eq_some.2 ⟨hdeclared, howner⟩
  simp only [putMapEntry, nonEmptyBytes_bytes, bytes_bytes, hmap, hmapOwner, ownedBlock, hblock, hhome,
    howned, Option.filter_some, decide_true, if_true, require, ok_bind, bind_assoc]
  refine .ensure Iff.rfl rfl fun _ => .ensure (hs.mapEntry?_eq_none hplace hname) rfl
    fun hfree => .ok ?_
  have hchange := Change.addMapEntry
    ⟨nextId (s.mapEntries.map (·.id)), mapId, block, home.height, keyHash, value⟩ declared owner home
    rfl hdeclared howner hhome howned.symm rfl hfree
  refine ⟨hs.change hchange, ⟨id, id, id, id, id⟩, ?_, ?_, rfl⟩
  · rw [history_addMapEntry hs hdeclared howner hhome, hid, hdeclaredName]
    simp
  · intro other hother
    rw [history_addMapEntry hs hdeclared howner hhome]
    simp [Ne.symm hother]

end Consistent

end Store

end ReplayLedger
