import ReplayLedger.Proofs.Judgement
import ReplayLedger.Proofs.LookUps

/-!
# Integers out of range

Ids, heights and bounds are integers without a limit, and the database can hold those of 64 bits.  A
height is only checked for its sign beforehand.  Whether the database can hold an integer turns out
where it is first handed over, behind other checks that may refuse the call for another reason.

What a call hands over is told in one place (`Call.HandsOver`): which of its integers, for which
table, and what must be the case for the call to come so far.  A call is refused because of an integer
exactly if it hands over one that is out of range (`Store.Reachable.overflows_run_iff`), and then the
tables stay as they are.  An id of a row is never out of range: tables have no last id, and whatever
ids their rows have can be looked for.

So no height beyond the range is ever stored.  A block at such a height advances its environment, and
only its hash stands between it and the database.

Main statement: `Database.Reachable.keeps_range`.
-/

namespace ReplayLedger

/-! ## Refusals because of an integer -/

section Overflows

variable {α β : Type}

/-- Something is refused because of an integer that the database cannot hold. -/
def Overflows (x : Except Error α) : Prop := x = .error .integerTooLarge

/-- An integer that the database cannot hold, and that is not the id of a row either. -/
def OutOfRange (ids : List Int) (n : Int) : Prop := ¬ Storable n ∧ n ∉ ids

@[simp] lemma not_overflows_ok {a : α} : ¬ Overflows (.ok a) := by simp [Overflows]

/-- An error is about an integer or it is not. -/
@[simp] lemma overflows_error {e : Error} :
    Overflows (.error e : Except Error α) ↔ e = .integerTooLarge := by
  simp [Overflows]

/-- Of two parts in a row, the first one is refused or the second one after the first has passed.
The rules for single checks below go first. -/
@[simp low] lemma overflows_bind {x : Except Error α} {next : α → Except Error β} :
    Overflows (x >>= next) ↔ Overflows x ∨ ∃ a, x = .ok a ∧ Overflows (next a) := by
  cases x with
  | ok a => simp
  | error e => simp [bind, Except.bind]

/-- What is made of an outcome does not matter. -/
@[simp] lemma overflows_map {x : Except Error α} {f : α → β} : Overflows (f <$> x) ↔ Overflows x := by
  cases x with
  | ok a => simp [Functor.map, Except.map]
  | error e => simp [Functor.map, Except.map]

/-- A condition is about an integer only if its error is. -/
@[simp] lemma overflows_ensure {p : Prop} [Decidable p] {e : Error} :
    Overflows (ensure p e) ↔ ¬ p ∧ e = .integerTooLarge := by
  by_cases hp : p <;> simp [ensure, hp]

/-- A missing row is about an integer only if its error is. -/
@[simp] lemma overflows_require {found : Option α} {e : Error} :
    Overflows (require found e) ↔ found = none ∧ e = .integerTooLarge := by
  cases found <;> simp [require]

/-- An integer is refused if it is out of range. -/
@[simp] lemma overflows_storable {n : Int} : Overflows (storable n) ↔ ¬ Storable n := by
  simp [storable]

/-- An id is refused if it is out of range and no row has it. -/
@[simp] lemma overflows_storableId {ids : List Int} {id : Int} :
    Overflows (storableId ids id) ↔ OutOfRange ids id := by
  simp [storableId, OutOfRange]

/-- A bound of a range is refused if it is given and out of range. -/
@[simp] lemma overflows_storableBound {bound : Option Int} :
    Overflows (Store.storableBound bound) ↔ ∃ n ∈ bound, ¬ Storable n := by
  cases bound <;> simp [Store.storableBound]

/-- What is refused for nothing but an integer may be put off: integers that are handed over one after
the other are refused if one of them is, whichever comes first. -/
lemma overflows_check_bind {x : Except Error Unit} (hx : x = .ok () ∨ Overflows x)
    {next : Unit → Except Error β} :
    Overflows (x >>= next) ↔ Overflows x ∨ Overflows (next ()) := by
  rcases hx with rfl | hx
  · simp
  · simp [hx]

/-- The check of an integer has no other error. -/
lemma storable_ok_or {n : Int} : storable n = .ok () ∨ Overflows (storable n) := by
  rw [storable_eq_ok, overflows_storable]
  exact em _

/-- The check of an id has no other error. -/
lemma storableId_ok_or {ids : List Int} {id : Int} :
    storableId ids id = .ok () ∨ Overflows (storableId ids id) := by
  rw [storableId_eq_ok, overflows_storableId, OutOfRange, ← not_or]
  exact em _

/-- The check of a bound has no other error. -/
lemma storableBound_ok_or {bound : Option Int} :
    Store.storableBound bound = .ok () ∨ Overflows (Store.storableBound bound) := by
  cases bound with
  | none => exact .inl rfl
  | some n => exact storable_ok_or

/-- What follows the check of an integer is reached if the check is not what is refused. -/
@[simp] lemma overflows_storable_bind {n : Int} {next : Unit → Except Error β} :
    Overflows (storable n >>= next) ↔ ¬ Storable n ∨ Overflows (next ()) := by
  rw [overflows_check_bind storable_ok_or, overflows_storable]

/-- What follows the check of an id is reached if the check is not what is refused. -/
@[simp] lemma overflows_storableId_bind {ids : List Int} {id : Int} {next : Unit → Except Error β} :
    Overflows (storableId ids id >>= next) ↔ OutOfRange ids id ∨ Overflows (next ()) := by
  rw [overflows_check_bind storableId_ok_or, overflows_storableId]

/-- What follows the check of a bound is reached if the check is not what is refused. -/
@[simp] lemma overflows_storableBound_bind {bound : Option Int} {next : Unit → Except Error β} :
    Overflows (Store.storableBound bound >>= next) ↔
      (∃ n ∈ bound, ¬ Storable n) ∨ Overflows (next ()) := by
  rw [overflows_check_bind storableBound_ok_or, overflows_storableBound]

/-- A write is refused as what it does is. -/
@[simp] lemma overflows_written {outcome : Except Error (Int × Store)} :
    Overflows (Call.written outcome) ↔ Overflows outcome := by
  simp [Call.written]

/-- A look-up is refused as its query is. -/
@[simp] lemma overflows_looked {s : Store} {toJson : α → Json} {outcome : Except Error α} :
    Overflows (Call.looked s toJson outcome) ↔ Overflows outcome := by
  simp [Call.looked]

end Overflows

/-! ## Arguments that are well formed -/

namespace Value

/-- A value that is a byte string. -/
def IsBytes (v : Value) : Prop := ∃ data, v.bytes? = some data

/-- A value that is a byte string and not the empty one. -/
def IsNonEmptyBytes (v : Value) : Prop := ∃ data, v.bytes? = some data ∧ data ≠ []

/-- A value that is a text and not a blank one.  The text need not be well formed. -/
def IsName (v : Value) : Prop := ∃ name, v.name? = some name ∧ ¬ name.IsBlank

/-- A value that is a height. -/
def IsHeight (v : Value) (n : Int) : Prop := v.int? = some n ∧ 0 ≤ n

end Value

namespace Argument

variable {field : String} {v : Value}

@[simp] lemma not_overflows_bytes : ¬ Overflows (bytes field v) := by simp [bytes]

@[simp] lemma not_overflows_nonEmptyBytes : ¬ Overflows (nonEmptyBytes field v) := by
  simp [nonEmptyBytes]

@[simp] lemma not_overflows_height : ¬ Overflows (height field v) := by simp [height]

@[simp] lemma not_overflows_name : ¬ Overflows (name field v) := by simp [name]

@[simp] lemma not_overflows_runtimeKind : ¬ Overflows (runtimeKind v) := by simp [runtimeKind]

/-- A byte string passes its check, and nothing else does. -/
@[simp] lemma exists_bytes : (∃ data, bytes field v = .ok data) ↔ v.IsBytes := by
  simp [bytes, Value.IsBytes]

/-- A byte string that must not be empty is passed on as it is. -/
lemma nonEmptyBytes_eq_ok {data : Bytes} :
    nonEmptyBytes field v = .ok data ↔ v.bytes? = some data ∧ data ≠ [] := by
  simp only [nonEmptyBytes, bytes, bind_eq_ok, require_eq_ok, ensure_eq_ok, pure_eq_ok]
  constructor
  · rintro ⟨_, hbytes, -, hne, rfl⟩
    exact ⟨hbytes, hne⟩
  · rintro ⟨hbytes, hne⟩
    exact ⟨data, hbytes, (), hne, rfl⟩

/-- A name that is not blank is passed on as it is, and one that is ill formed too. -/
lemma name_eq_ok {given : RawName} :
    name field v = .ok given ↔ v.name? = some given ∧ ¬ given.IsBlank := by
  simp only [name, bind_eq_ok, require_eq_ok, ensure_eq_ok, pure_eq_ok]
  constructor
  · rintro ⟨_, hgiven, -, hblank, rfl⟩
    exact ⟨hgiven, hblank⟩
  · rintro ⟨hgiven, hblank⟩
    exact ⟨given, hgiven, (), hblank, rfl⟩

/-- A height is a number that is not negative, and not a truth value. -/
@[simp] lemma height_eq_ok_iff {n : Int} : height field v = .ok n ↔ v.IsHeight n := height_eq_ok

/-- A byte string that is not empty passes its check, and nothing else does. -/
@[simp] lemma exists_nonEmptyBytes : (∃ data, nonEmptyBytes field v = .ok data) ↔ v.IsNonEmptyBytes := by
  simp only [nonEmptyBytes_eq_ok, Value.IsNonEmptyBytes]

/-- A text that is not blank passes its check, and nothing else does. -/
@[simp] lemma exists_name : (∃ given, name field v = .ok given) ↔ v.IsName := by
  simp only [name_eq_ok, Value.IsName]

end Argument

/-- A name that cannot be encoded is refused, but not because of an integer. -/
@[simp] lemma RawName.not_overflows_encoded {name : RawName} : ¬ Overflows name.encoded := by
  cases name <;> simp [encoded]

/-- The facts of a block are checked one by one, none against the range of the database. -/
@[simp] lemma BlockFacts.not_overflows_ofValues {height indexHash trieRoot : Value} :
    ¬ Overflows (BlockFacts.ofValues height indexHash trieRoot) := by
  simp [BlockFacts.ofValues]

/-- Every error of a payload is about its form. -/
@[simp] lemma BlockPayload.not_overflows_ofValue {raw : Value} :
    ¬ Overflows (BlockPayload.ofValue raw) := by
  unfold BlockPayload.ofValue
  cases Payload.check raw <;> simp

/-- Heights are compared as they are, without the database. -/
@[simp] lemma Environment.not_overflows_advances {owner : Environment} {height : Int} :
    ¬ Overflows (owner.advances height) := by
  unfold Environment.advances
  cases owner.maxHeight <;> simp

/-! ## What calls hand over -/

/-- What an integer is handed over for: to find a row by its id, or to be compared with heights. -/
inductive Query where
  | environment (id : Int)
  | block (id : Int)
  | contract (id : Int)
  | execution (id : Int)
  | declaredVariable (id : Int)
  | declaredMap (id : Int)
  | height (n : Int)

/-- The integer that is handed over. -/
def Query.value : Query → Int
  | .environment id | .block id | .contract id | .execution id | .declaredVariable id
  | .declaredMap id => id
  | .height n => n

/-- The integer is out of range. -/
def Query.Fails (s : Store) : Query → Prop
  | .environment id => OutOfRange (s.environments.map (·.id)) id
  | .block id => OutOfRange (s.blocks.map (·.id)) id
  | .contract id => OutOfRange (s.contracts.map (·.id)) id
  | .execution id => OutOfRange (s.executions.map (·.id)) id
  | .declaredVariable id => OutOfRange (s.vars.map (·.id)) id
  | .declaredMap id => OutOfRange (s.maps.map (·.id)) id
  | .height n => ¬ Storable n

/-- The ids of all rows that can be asked for are such as the database can hold. -/
def Store.IdsStorable (s : Store) : Prop :=
  ∀ id ∈ s.environments.map (·.id) ++ s.blocks.map (·.id) ++ s.contracts.map (·.id)
    ++ s.executions.map (·.id) ++ s.vars.map (·.id) ++ s.maps.map (·.id), Storable id

/-- Where all ids are in range, a query fails if its integer is out of range. -/
lemma Store.IdsStorable.fails_iff {s : Store} (h : s.IdsStorable) (query : Query) :
    query.Fails s ↔ ¬ Storable query.value := by
  have houtOfRange {ids : List Int} {n : Int} (hids : ∀ id ∈ ids, Storable id) :
      OutOfRange ids n ↔ ¬ Storable n :=
    ⟨fun hrange => hrange.1, fun hnot => ⟨hnot, fun hmem => hnot (hids n hmem)⟩⟩
  simp only [IdsStorable, List.forall_mem_append] at h
  obtain ⟨⟨⟨⟨⟨henvironments, hblocks⟩, hcontracts⟩, hexecutions⟩, hvars⟩, hmaps⟩ := h
  cases query with
  | environment id => exact houtOfRange henvironments
  | block id => exact houtOfRange hblocks
  | contract id => exact houtOfRange hcontracts
  | execution id => exact houtOfRange hexecutions
  | declaredVariable id => exact houtOfRange hvars
  | declaredMap id => exact houtOfRange hmaps
  | height n => exact Iff.rfl

/-- A block advances an environment, under a hash that is new there. -/
def Store.Admits (s : Store) (owner : Environment) (facts : BlockFacts) : Prop :=
  (∀ reached, owner.maxHeight = some reached → reached < facts.height) ∧
    ∀ row ∈ s.blocks, row.environmentId = owner.id → row.indexHash ≠ facts.indexHash

/-- A call hands over an integer with some property: it comes so far that it asks the database for
it. -/
def Call.HandsOver (s : Store) (P : Query → Prop) : Call → Prop
  | .createEnvironment _ _ _ | .getEnvironmentByName _ | .listEnvironments | .resolve (.name _)
  | .resolve (.illFormed _) => False
  -- these ask for a row at once
  | .resolve (.id id) | .getEnvironment id | .dropEnvironment id | .latestHeight id
  | .getContract _ id | .listContracts id => P (.environment id)
  | .getBlockById id | .listEntries id | .listExecutions id | .variableWritesAt id
  | .mapWritesAt id => P (.block id)
  | .getContractById id | .findVariable id _ | .findMap id _ => P (.contract id)
  | .getVariable id => P (.declaredVariable id)
  | .getMap id => P (.declaredMap id)
  | .getBlock environment height => P (.environment environment) ∨ P (.height height)
  | .listBlocks environment start stop =>
    P (.environment environment) ∨ (∃ n ∈ start, P (.height n)) ∨ ∃ n ∈ stop, P (.height n)
  -- these look at their other arguments first
  | .getBlockByHash environment indexHash => indexHash.IsBytes ∧ P (.environment environment)
  | .getEntry block keyHash => keyHash.IsBytes ∧ P (.block block)
  | .putEntry block keyHash value => keyHash.IsNonEmptyBytes ∧ value.IsBytes ∧ P (.block block)
  | .registerContract block qualifiedId source =>
    qualifiedId.IsName ∧ source.IsBytes ∧ P (.block block)
  | .declareVariable contract name | .declareMap contract name =>
    name.IsName ∧ P (.contract contract)
  -- these ask for a row, and go on if it is there
  | .diffEntries left right => P (.block left) ∨ left ∈ s.blocks.map (·.id) ∧ P (.block right)
  | .recordExecution block contract transactionId => transactionId.IsNonEmptyBytes ∧
    (P (.block block) ∨ block ∈ s.blocks.map (·.id) ∧ P (.contract contract))
  | .latestVariableValue id asOf => ∃ n, asOf.IsHeight n ∧
    (P (.declaredVariable id) ∨ id ∈ s.vars.map (·.id) ∧ P (.height n))
  | .latestMapEntry id keyHash asOf => keyHash.IsBytes ∧ ∃ n, asOf.IsHeight n ∧
    (P (.declaredMap id) ∨ id ∈ s.maps.map (·.id) ∧ P (.height n))
  | .putMapEntry id block keyHash value => keyHash.IsNonEmptyBytes ∧ value.IsBytes ∧
    (P (.declaredMap id) ∨ id ∈ s.maps.map (·.id) ∧ P (.block block))
  | .recordVariableInstance id block execution value => value.IsBytes ∧
    (P (.declaredVariable id) ∨ ∃ declared ∈ s.vars, ∃ owner ∈ s.contracts,
      declared.id = id ∧ owner.id = declared.contractId ∧
      (P (.block block) ∨ ∃ home ∈ s.blocks, home.id = block ∧
        home.environmentId = owner.environmentId ∧ P (.execution execution)))
  -- these ask for environments, and for a height if nothing else is wrong
  | .recordBlock environment height indexHash trieRoot =>
    ∃ facts, BlockFacts.ofValues height indexHash trieRoot = .ok facts ∧
      (P (.environment environment) ∨ (∃ owner ∈ s.environments, owner.id = environment ∧
        s.Admits owner facts) ∧ P (.height facts.height))
  | .applyBlock raw => ∃ payload, BlockPayload.ofValue raw = .ok payload ∧
    ((∃ id, payload.environment = .id id ∧ P (.environment id)) ∨
      payload.indexHash ≠ [] ∧ payload.trieRoot ≠ [] ∧ (∃ owner ∈ s.environments,
        payload.environment.Denotes owner ∧ s.Admits owner payload.facts) ∧ P (.height payload.height))
  | .compareHeights refs height => ∃ n, height.IsHeight n ∧
    ((∃ earlier id later, refs = earlier ++ .id id :: later ∧ (∀ ref ∈ earlier, s.Knows ref) ∧
        P (.environment id)) ∨
      (∀ ref ∈ refs, s.Knows ref) ∧ s.MentionsSeveral refs ∧ P (.height n))

namespace Store

variable {s : Store}

/-! ## Calls one by one -/

namespace Consistent

/-- A block that is referred to is the one with the id. -/
lemma referencedBlock_eq_ok_iff (hs : s.Consistent) {id : Int} {row : Block} :
    s.referencedBlock id = .ok row ↔ row ∈ s.blocks ∧ row.id = id :=
  require_row_eq_ok hs.block?_eq_some

/-- A block that an environment has to own is the one with the id, in the environment. -/
lemma ownedBlock_eq_ok_iff (hs : s.Consistent) {id environment : Int} {row : Block} :
    s.ownedBlock id environment = .ok row ↔
      row ∈ s.blocks ∧ row.id = id ∧ row.environmentId = environment := by
  have hfound : (s.block? id).filter (fun row => row.environmentId = environment) = some row ↔
      row ∈ s.blocks ∧ row.id = id ∧ row.environmentId = environment := by
    simp [Option.filter_eq_some_iff, hs.block?_eq_some, and_assoc]
  refine (require_of_storableId_eq_ok fun h => ?_).trans hfound
  obtain ⟨hrow, rfl, -⟩ := hfound.1 h
  exact List.mem_map_of_mem hrow

end Consistent

/-- An environment is asked for by its id. -/
@[simp] lemma overflows_getEnvironment {id : Int} :
    Overflows (s.getEnvironment id) ↔ OutOfRange (s.environments.map (·.id)) id := by
  simp [getEnvironment]

/-- A block is asked for by its id. -/
@[simp] lemma overflows_getBlockById {id : Int} :
    Overflows (s.getBlockById id) ↔ OutOfRange (s.blocks.map (·.id)) id := by
  simp [getBlockById]

/-- A block that is referred to is asked for by its id. -/
@[simp] lemma overflows_referencedBlock {id : Int} :
    Overflows (s.referencedBlock id) ↔ OutOfRange (s.blocks.map (·.id)) id := by
  simp [referencedBlock]

/-- A block is asked for by its id before its owner is looked at. -/
@[simp] lemma overflows_ownedBlock {id environment : Int} :
    Overflows (s.ownedBlock id environment) ↔ OutOfRange (s.blocks.map (·.id)) id := by
  simp [ownedBlock]

/-- A contract that is referred to is asked for by its id. -/
@[simp] lemma overflows_referencedContract {id : Int} :
    Overflows (s.referencedContract id) ↔ OutOfRange (s.contracts.map (·.id)) id := by
  simp [referencedContract]

/-- A variable is asked for by its id. -/
@[simp] lemma overflows_getVariable {id : Int} :
    Overflows (s.getVariable id) ↔ OutOfRange (s.vars.map (·.id)) id := by
  simp [getVariable]

/-- A map is asked for by its id. -/
@[simp] lemma overflows_getMap {id : Int} :
    Overflows (s.getMap id) ↔ OutOfRange (s.maps.map (·.id)) id := by
  simp [getMap]

/-- Of the references, only an id can be out of range. -/
lemma overflows_resolve {ref : Reference} :
    Overflows (s.resolve ref) ↔ ∃ id, ref = .id id ∧ OutOfRange (s.environments.map (·.id)) id := by
  cases ref <;> simp [resolve, getEnvironmentByName]

/-- A map that exists belongs to a contract that exists. -/
lemma Consistent.exists_mapOwner? (hs : s.Consistent) {id : Int} :
    (∃ declared owner, s.mapOwner? id = some (declared, owner)) ↔
      ∃ declared ∈ s.maps, declared.id = id := by
  simp only [mapOwner?_eq_some, hs.map?_eq_some, hs.contract?_eq_some]
  constructor
  · rintro ⟨declared, -, ⟨hdeclared, hid⟩, -⟩
    exact ⟨declared, hdeclared, hid⟩
  · rintro ⟨declared, hdeclared, hid⟩
    obtain ⟨owner, howner, hownerId⟩ := hs.links.maps declared hdeclared
    exact ⟨declared, owner, ⟨hdeclared, hid⟩, howner, hownerId⟩

/-- A variable that exists belongs to a contract that exists. -/
lemma Consistent.variableOwner?_eq_some_iff (hs : s.Consistent) {id : Int} {declared : Variable}
    {owner : Contract} : s.variableOwner? id = some (declared, owner) ↔
      declared ∈ s.vars ∧ owner ∈ s.contracts ∧ declared.id = id ∧ owner.id = declared.contractId := by
  rw [variableOwner?_eq_some, hs.variableWithId?_eq_some, hs.contract?_eq_some, and_and_and_comm,
    and_assoc]

/-- Before a block is inserted, its environment is the only integer that is handed over. -/
@[simp] lemma overflows_checkBlock {environment : Int} {facts : BlockFacts} :
    Overflows (s.checkBlock environment facts) ↔ OutOfRange (s.environments.map (·.id)) environment := by
  simp [checkBlock]

/-- A block is admitted for an environment that exists and has not reached its height, unless its
hash is taken. -/
lemma Consistent.checkBlock_eq_ok_iff (hs : s.Consistent) {environment : Int} {facts : BlockFacts}
    {u : Unit} : s.checkBlock environment facts = .ok u ↔
      ∃ owner ∈ s.environments, owner.id = environment ∧ s.Admits owner facts := by
  simp only [checkBlock, bind_eq_ok, storableId_eq_ok, require_eq_ok, hs.environment?_eq_some,
    advances_eq_ok, ensure_eq_ok, blockWithHash?, List.find?_eq_none]
  constructor
  · rintro ⟨-, -, owner, ⟨howner, rfl⟩, -, hadvances, hhash⟩
    refine ⟨owner, howner, rfl, hadvances, fun row hrow hown hsame => ?_⟩
    exact hhash row hrow (by simp [hown, hsame])
  · rintro ⟨owner, howner, rfl, hadvances, hhash⟩
    refine ⟨(), .inr (List.mem_map_of_mem howner), owner, ⟨howner, rfl⟩, (), hadvances, ?_⟩
    intro row hrow
    simpa using hhash row hrow

/-- A block asks for its environment, and for its height if nothing else is wrong with it. -/
lemma Consistent.overflows_recordBlock (hs : s.Consistent) {environment : Int}
    {height indexHash trieRoot : Value} :
    Overflows (s.recordBlock environment height indexHash trieRoot) ↔
      ∃ facts, BlockFacts.ofValues height indexHash trieRoot = .ok facts ∧
        (OutOfRange (s.environments.map (·.id)) environment ∨ (∃ owner ∈ s.environments,
          owner.id = environment ∧ s.Admits owner facts) ∧ ¬ Storable facts.height) := by
  simp [recordBlock, advance, insertBlock, hs.checkBlock_eq_ok_iff]

/-- Facts of a payload have the right types already, so only their values are checked. -/
lemma ofValues_int_bytes {height : Int} {indexHash trieRoot : Bytes} {facts : BlockFacts} :
    BlockFacts.ofValues (.int height) (.bytes indexHash) (.bytes trieRoot) = .ok facts ↔
      0 ≤ height ∧ indexHash ≠ [] ∧ trieRoot ≠ [] ∧ facts = ⟨height, indexHash, trieRoot⟩ := by
  simp only [BlockFacts.ofValues, height_int, nonEmptyBytes_bytes, bind_eq_ok, ensure_eq_ok,
    Except.ok.injEq, pure_eq_ok]
  constructor
  · rintro ⟨_, ⟨-, hpos, rfl⟩, _, ⟨-, hindex, rfl⟩, _, ⟨-, hroot, rfl⟩, rfl⟩
    exact ⟨hpos, hindex, hroot, rfl⟩
  · rintro ⟨hpos, hindex, hroot, rfl⟩
    exact ⟨_, ⟨(), hpos, rfl⟩, _, ⟨(), hindex, rfl⟩, _, ⟨(), hroot, rfl⟩, rfl⟩

/-- What is judged by conditions that never tell of an integer is not refused because of one. -/
lemma not_overflows_of_judged {α : Type} {R : α → Prop} {conditions : List Condition}
    {kinds : List ErrorKind} {x : Except Error α} (h : Judged R conditions x)
    (htells : TellsOnly kinds conditions) (hkinds : ErrorKind.overflow ∉ kinds) : ¬ Overflows x := by
  rintro rfl
  obtain ⟨before, broken, after, rfl, -, -, he⟩ := h.tellsFirst
  exact hkinds (htells broken (by simp) _ he)

/-- A block that has been recorded has a height in range. -/
lemma storable_of_recordBlock {environment : Int} {height indexHash trieRoot : Value}
    {facts : BlockFacts} (hfacts : BlockFacts.ofValues height indexHash trieRoot = .ok facts)
    {r : Int × Store} (h : s.recordBlock environment height indexHash trieRoot = .ok r) :
    Storable facts.height := by
  rw [recordBlock, hfacts, ok_bind] at h
  obtain ⟨_, -, h⟩ := bind_eq_ok.1 h
  obtain ⟨_, hadvance, -⟩ := bind_eq_ok.1 h
  obtain ⟨_, hstorable, -⟩ := bind_eq_ok.1 hadvance
  exact storable_eq_ok.1 hstorable

/-- Of a payload for an environment that exists, nothing but the height is handed over that could be out
of range: all ids are those of rows that were found or written on the way. -/
lemma Reachable.overflows_applyPayload_of_resolve (h : s.Reachable) {payload : BlockPayload}
    {owner : Environment} (hresolve : s.resolve payload.environment = .ok owner)
    (hpos : 0 ≤ payload.height) : Overflows (s.applyPayload payload) ↔ payload.indexHash ≠ [] ∧
      payload.trieRoot ≠ [] ∧ s.Admits owner payload.facts ∧ ¬ Storable payload.height := by
  have hs := h.consistent
  by_cases hstorable : Storable payload.height
  · have hjudged := h.applyPayload_judged hresolve hpos hstorable.2
    have hnot := not_overflows_of_judged hjudged (payload.conditions_tellsOnly s owner) (by decide)
    simp [hnot, hstorable]
  · have howner := hs.mem_of_resolve hresolve
    have hfirst : Overflows (s.applyPayload payload) ↔ Overflows (s.recordBlock owner.id
        (.int payload.height) (.bytes payload.indexHash) (.bytes payload.trieRoot)) := by
      rw [applyPayload, hresolve, ok_bind, overflows_bind, or_iff_left]
      rintro ⟨r, hrecord, -⟩
      obtain ⟨facts, hfacts, -⟩ := bind_eq_ok.1 hrecord
      obtain ⟨-, -, -, rfl⟩ := ofValues_int_bytes.1 hfacts
      exact hstorable (storable_of_recordBlock hfacts hrecord)
    have hadmits : (∃ other ∈ s.environments, other.id = owner.id ∧ s.Admits other payload.facts) ↔
        s.Admits owner payload.facts := by
      constructor
      · rintro ⟨other, hother, hid, hadmits⟩
        rwa [← hs.eq_of_id_eq hother howner hid]
      · exact fun hadmits => ⟨owner, howner, rfl, hadmits⟩
    have hlive : ¬ OutOfRange (s.environments.map (·.id)) owner.id :=
      fun hrange => hrange.2 (List.mem_map_of_mem howner)
    rw [hfirst, hs.overflows_recordBlock]
    constructor
    · rintro ⟨facts, hfacts, hrange | ⟨hother, hbeyond⟩⟩
      · exact absurd hrange hlive
      · obtain ⟨-, hindex, hroot, rfl⟩ := ofValues_int_bytes.1 hfacts
        exact ⟨hindex, hroot, hadmits.1 hother, hbeyond⟩
    · rintro ⟨hindex, hroot, howned, hbeyond⟩
      exact ⟨payload.facts, ofValues_int_bytes.2 ⟨hpos, hindex, hroot, rfl⟩,
        .inr ⟨hadmits.2 howned, hbeyond⟩⟩

/-- A payload asks for its environment, and for its height if nothing else is wrong with its block. -/
lemma Reachable.overflows_applyPayload (h : s.Reachable) {payload : BlockPayload}
    (hpos : 0 ≤ payload.height) : Overflows (s.applyPayload payload) ↔
      (∃ id, payload.environment = .id id ∧ OutOfRange (s.environments.map (·.id)) id) ∨
        payload.indexHash ≠ [] ∧ payload.trieRoot ≠ [] ∧ (∃ owner ∈ s.environments,
          payload.environment.Denotes owner ∧ s.Admits owner payload.facts) ∧
          ¬ Storable payload.height := by
  have hs := h.consistent
  have hdenotes : (∃ owner ∈ s.environments, payload.environment.Denotes owner ∧
      s.Admits owner payload.facts) ↔
      ∃ owner, s.resolve payload.environment = .ok owner ∧ s.Admits owner payload.facts := by
    simp only [hs.resolve_eq_ok_iff, and_assoc]
  rw [← overflows_resolve, hdenotes]
  cases hresolve : s.resolve payload.environment with
  | error e =>
    have hrefused : s.applyPayload payload = .error e := by
      rw [applyPayload, hresolve]
      rfl
    simp [hrefused]
  | ok owner => simp [h.overflows_applyPayload_of_resolve hresolve hpos]

/-- Of references that do not all stand for environments, the first one that does not is refused. -/
lemma Consistent.exists_refused (hs : s.Consistent) {refs : List Reference}
    (h : ¬ ∀ ref ∈ refs, s.Knows ref) :
    ∃ earlier ref later e, refs = earlier ++ ref :: later ∧ (∀ ref ∈ earlier, s.Knows ref) ∧
      s.resolve ref = .error e ∧ s.resolveDistinct refs = .error e := by
  obtain ⟨earlier, ref, later, rfl, hearlier, hunknown⟩ := exists_first (by simpa using h)
  cases hresolve : s.resolve ref with
  | ok row => exact absurd ⟨row, hs.resolve_eq_ok_iff.1 hresolve⟩ hunknown
  | error e =>
    exact ⟨earlier, ref, later, e, rfl, hearlier, hresolve,
      hs.resolveDistinct_of_refused hearlier hresolve⟩

/-- References are asked for one by one, as long as they stand for environments. -/
lemma Consistent.overflows_resolveDistinct (hs : s.Consistent) {refs : List Reference} :
    Overflows (s.resolveDistinct refs) ↔ ∃ earlier id later, refs = earlier ++ .id id :: later ∧
      (∀ ref ∈ earlier, s.Knows ref) ∧ OutOfRange (s.environments.map (·.id)) id := by
  constructor
  · intro hover
    by_cases hknown : ∀ ref ∈ refs, s.Knows ref
    · obtain ⟨rows, hrows, -⟩ := hs.exists_rows_of_known hknown
      rw [hs.resolveDistinct_eq hrows] at hover
      exact absurd hover not_overflows_ok
    · obtain ⟨earlier, ref, later, e, rfl, hearlier, hresolve, hrefused⟩ := hs.exists_refused hknown
      rw [hrefused, overflows_error] at hover
      subst hover
      obtain ⟨id, rfl, hrange⟩ := overflows_resolve.1 hresolve
      exact ⟨earlier, id, later, rfl, hearlier, hrange⟩
  · rintro ⟨earlier, id, later, rfl, hearlier, hrange⟩
    have hresolve : Overflows (s.resolve (.id id)) := overflows_resolve.2 ⟨id, rfl, hrange⟩
    exact hs.resolveDistinct_of_refused hearlier hresolve

/-- A comparison asks for its height when there are environments to compare. -/
lemma Consistent.overflows_compareHeights (hs : s.Consistent) {refs : List Reference} {height : Value} :
    Overflows (s.compareHeights refs height) ↔ ∃ n, height.IsHeight n ∧
      (Overflows (s.resolveDistinct refs) ∨
        (∀ ref ∈ refs, s.Knows ref) ∧ s.MentionsSeveral refs ∧ ¬ Storable n) := by
  by_cases hknown : ∀ ref ∈ refs, s.Knows ref
  · obtain ⟨found, hfound, -⟩ := hs.exists_rows_of_known hknown
    obtain ⟨rows, hcompare, hlength, -⟩ := hs.compareHeights_of_known hknown
    rw [hcompare, hs.resolveDistinct_eq hfound]
    simp [compareAmong, hlength, iff_true_intro hknown]
  · obtain ⟨-, -, -, e, -, -, -, hrefused⟩ := hs.exists_refused hknown
    simp [compareHeights, hrefused, iff_false_intro hknown]

/-- A call is refused because of an integer exactly if it hands over one that is out of range. -/
lemma Reachable.overflows_run_iff (hs : s.Reachable) (c : Call) :
    Overflows (c.run s) ↔ c.HandsOver s (·.Fails s) := by
  have hconsistent := hs.consistent
  -- the calls are taken together by what they ask for, as they are told in `Call.HandsOver`
  cases c with
  | createEnvironment | getEnvironmentByName | listEnvironments =>
    simp [Call.run, Call.HandsOver, createEnvironment, getEnvironmentByName]
  | resolve ref => cases ref <;> simp [Call.run, Call.HandsOver, Query.Fails, overflows_resolve]
  | getEnvironment | dropEnvironment | latestHeight | getContract | listContracts =>
    simp [Call.run, Call.HandsOver, Query.Fails, dropEnvironment, latestHeight, getContract,
      listContracts]
  | getBlockById | listEntries | listExecutions | variableWritesAt | mapWritesAt =>
    simp [Call.run, Call.HandsOver, Query.Fails, listEntries, listExecutions, variableWritesAt,
      mapWritesAt]
  | getContractById | findVariable | findMap | getVariable | getMap =>
    simp [Call.run, Call.HandsOver, Query.Fails, getContractById, findVariable, findMap]
  | getBlock | listBlocks => simp [Call.run, Call.HandsOver, Query.Fails, getBlock, listBlocks]
  | getBlockByHash | getEntry => simp [Call.run, Call.HandsOver, Query.Fails, getBlockByHash, getEntry]
  | putEntry | registerContract | declareVariable | declareMap =>
    simp [Call.run, Call.HandsOver, Query.Fails, putEntry, registerContract, declareVariable,
      declareMap]
  | diffEntries | recordExecution =>
    simp [Call.run, Call.HandsOver, Query.Fails, diffEntries, recordExecution,
      hconsistent.getBlockById_eq_ok_iff, hconsistent.referencedBlock_eq_ok_iff]
  | latestVariableValue | latestMapEntry =>
    simp [Call.run, Call.HandsOver, Query.Fails, latestVariableValue, latestMapEntry,
      hconsistent.getVariable_eq_ok_iff, hconsistent.getMap_eq_ok_iff]
  | putMapEntry =>
    simp [Call.run, Call.HandsOver, Query.Fails, putMapEntry, hconsistent.exists_mapOwner?]
  | recordVariableInstance =>
    simp [Call.run, Call.HandsOver, Query.Fails, recordVariableInstance, and_assoc,
      hconsistent.variableOwner?_eq_some_iff, hconsistent.ownedBlock_eq_ok_iff]
  | recordBlock =>
    simp [Call.run, Call.HandsOver, Query.Fails, hconsistent.overflows_recordBlock]
  | applyBlock raw =>
    have hpayload {payload : BlockPayload} (hchecked : BlockPayload.ofValue raw = .ok payload) :=
      hs.overflows_applyPayload (BlockPayload.height_of_ofValue hchecked)
    simp [Call.run, Call.HandsOver, Query.Fails, applyBlock, and_congr_right hpayload]
  | compareHeights =>
    simp [Call.run, Call.HandsOver, Query.Fails, hconsistent.overflows_compareHeights,
      hconsistent.overflows_resolveDistinct]

/-! ## Heights -/

/-- All heights that are stored: those of blocks, their copies, and those that environments have
reached. -/
def storedHeights (s : Store) : List Int :=
  s.blocks.map (·.height) ++ s.instances.map (·.height) ++ s.mapEntries.map (·.height)
    ++ s.environments.filterMap (·.maxHeight)

/-- Every height that is stored is the height of a block. -/
lemma Reachable.exists_block_of_storedHeight (h : s.Reachable) {n : Int} (hn : n ∈ s.storedHeights) :
    ∃ row ∈ s.blocks, row.height = n := by
  have hs := h.consistent
  simp only [storedHeights, List.mem_append, List.mem_map, List.mem_filterMap] at hn
  rcases hn with ((hblock | ⟨row, hrow, rfl⟩) | ⟨row, hrow, rfl⟩) | ⟨owner, howner, hreached⟩
  · exact hblock
  · obtain ⟨-, -, -, -, home, hhome, -, -, -, -, -, -, -, -, -, hheight⟩ := hs.links.instances row hrow
    exact ⟨home, hhome, hheight.symm⟩
  · obtain ⟨-, -, -, -, home, hhome, -, -, -, -, hheight⟩ := hs.links.mapEntries row hrow
    exact ⟨home, hhome, hheight.symm⟩
  · have hmark := hs.watermarked howner (h.climbs owner.id)
    obtain ⟨⟨row, hrow, hheight⟩, -⟩ := hmark.greatest hreached
    exact ⟨row, (List.mem_filter.1 hrow).1, hheight⟩

/-- Every height that is stored has been checked twice, to be no less than zero and to be in range.
-/
lemma Reachable.storedHeights_inRange (h : s.Reachable) {n : Int} (hn : n ∈ s.storedHeights) :
    0 ≤ n ∧ n < 0x8000000000000000 := by
  obtain ⟨row, hrow, rfl⟩ := h.exists_block_of_storedHeight hn
  obtain ⟨hpos, hstorable⟩ := h.consistent.heights row hrow
  exact ⟨hpos, hstorable.2⟩

/-! ## Blocks beyond the range -/

/-- With what a block at a height beyond the range is refused: its hash, if the environment has it, and
else the height. -/
def refusalBeyond (s : Store) (environment : Int) (indexHash : Bytes) : Error :=
  if ∃ row ∈ s.blocks, row.environmentId = environment ∧ row.indexHash = indexHash then
    .blockRecorded indexHash environment
  else .integerTooLarge

/-- A height beyond the range lies above all that are stored, so a block there advances its
environment, and its hash is looked at next. -/
lemma Reachable.recordBlock_beyond (h : s.Reachable) {owner : Environment}
    (howner : owner ∈ s.environments) {height indexHash trieRoot : Value} {facts : BlockFacts}
    (hfacts : BlockFacts.ofValues height indexHash trieRoot = .ok facts)
    (hbeyond : 0x8000000000000000 ≤ facts.height) :
    s.recordBlock owner.id height indexHash trieRoot =
      .error (s.refusalBeyond owner.id facts.indexHash) := by
  have hs := h.consistent
  have hadvances : ∀ reached, owner.maxHeight = some reached → reached < facts.height := by
    intro reached hreached
    have hstored : reached ∈ s.storedHeights :=
      List.mem_append_right _ (List.mem_filterMap.2 ⟨owner, howner, hreached⟩)
    exact Int.lt_of_lt_of_le (h.storedHeights_inRange hstored).2 hbeyond
  by_cases hrecorded : ∃ row ∈ s.blocks, row.environmentId = owner.id ∧ row.indexHash = facts.indexHash
  · have owned := hs.environment?_eq_some.2 ⟨howner, rfl⟩
    have hclash : s.blockWithHash? owner.id facts.indexHash ≠ none := by
      simpa [blockWithHash?] using hrecorded
    have hadvance : owner.advances facts.height = .ok () := advances_eq_ok.2 hadvances
    rw [refusalBeyond, if_pos hrecorded, recordBlock, hfacts, ok_bind, checkBlock,
      storableId_of_find? owned, ok_bind, owned, require, ok_bind, hadvance, ok_bind, ensure,
      if_neg hclash]
    rfl
  · rw [refusalBeyond, if_neg hrecorded]
    refine hs.overflows_recordBlock.2 ⟨facts, hfacts, .inr ⟨⟨owner, howner, rfl, hadvances, ?_⟩, ?_⟩⟩
    · exact fun row hrow hown hsame => hrecorded ⟨row, hrow, hown, hsame⟩
    · exact fun hstorable => absurd hstorable.2 (Int.not_lt.2 hbeyond)

/-- A payload beyond the range fails when its block is inserted, after all checks of the block, and
before any of its parts is looked at. -/
lemma Reachable.applyBlock_beyond (h : s.Reachable) {owner : Environment}
    (howner : owner ∈ s.environments) {raw : Value} {payload : BlockPayload}
    (hchecked : BlockPayload.ofValue raw = .ok payload)
    (hdenotes : payload.environment.Denotes owner) (hindex : payload.indexHash ≠ [])
    (hroot : payload.trieRoot ≠ []) (hbeyond : 0x8000000000000000 ≤ payload.height) :
    s.applyBlock raw = .error (s.refusalBeyond owner.id payload.indexHash) := by
  have hresolve := h.consistent.resolve_eq_ok_iff.2 ⟨howner, hdenotes⟩
  have hpos := BlockPayload.height_of_ofValue hchecked
  have hrefused := h.recordBlock_beyond howner
    (ofValues_int_bytes.2 ⟨hpos, hindex, hroot, rfl⟩) hbeyond
  rw [applyBlock, hchecked, ok_bind, applyPayload, hresolve, ok_bind, hrefused]
  rfl

end Store

/-! ## Databases -/

namespace Database

/-- A database keeps to the integers that it can hold. -/
structure KeepsRange (db : Database) : Prop where
  /-- All heights that are stored are such as it can hold, and not negative. -/
  heights {n : Int} (stored : n ∈ db.tables.storedHeights) : 0 ≤ n ∧ n < 0x8000000000000000
  /-- A call that hands over an integer out of range is refused for it, and changes nothing; and no
  other call is refused for an integer. -/
  overflow (c : Call) : Step.run db (.call c) = (.failure .integerTooLarge, db) ↔
    c.HandsOver db.tables (·.Fails db.tables)
  /-- Out of range are the integers that it cannot hold, if it holds the ids of all rows. -/
  outOfRange (held : db.tables.IdsStorable) (query : Query) :
    query.Fails db.tables ↔ ¬ Storable query.value
  /-- A block at a height beyond the range is refused, and changes nothing. -/
  recordBlock {owner : Environment} (known : owner ∈ db.tables.environments)
    {height indexHash trieRoot : Value} {facts : BlockFacts}
    (wellFormed : BlockFacts.ofValues height indexHash trieRoot = .ok facts)
    (beyond : 0x8000000000000000 ≤ facts.height) :
    Step.run db (.call (.recordBlock owner.id height indexHash trieRoot)) =
      (.failure (db.tables.refusalBeyond owner.id facts.indexHash), db)
  /-- So is a payload at such a height. -/
  applyBlock {owner : Environment} (known : owner ∈ db.tables.environments) {raw : Value}
    {payload : BlockPayload} (checked : BlockPayload.ofValue raw = .ok payload)
    (named : payload.environment.Denotes owner) (indexHash : payload.indexHash ≠ [])
    (trieRoot : payload.trieRoot ≠ []) (beyond : 0x8000000000000000 ≤ payload.height) :
    Step.run db (.call (.applyBlock raw)) =
      (.failure (db.tables.refusalBeyond owner.id payload.indexHash), db)

/-- A call that is refused answers with the error and leaves the database as it is. -/
lemma run_call_eq_failure_iff {db : Database} {c : Call} {e : Error} :
    Step.run db (.call c) = (.failure e, db) ↔ c.run db.tables = .error e := by
  rw [Step.run]
  rcases c.script_cases db with ⟨answer, tables, hrun, hscript⟩ | ⟨e', hrun, hscript⟩
  · simp [hscript, hrun, Step.settle]
  · simp [hscript, hrun, Step.settle]

end Database

end ReplayLedger
