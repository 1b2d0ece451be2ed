import ReplayLedger.Store.Environments

/-!
# Blocks: a ledger for each environment

An environment records blocks at rising heights.  Its row carries the height it has reached, which
is checked and advanced together with each new block.  The block itself comes last: should the
height be taken in spite of the check, because the row of the environment was damaged, the block is
refused.
-/

namespace ReplayLedger

/-- What is known of a block before it is recorded. -/
structure BlockFacts where
  height : Int
  indexHash : Bytes
  trieRoot : Bytes
  deriving DecidableEq, Repr, Inhabited

/-- Takes the facts of a block out of raw values. -/
def BlockFacts.ofValues (height indexHash trieRoot : Value) : Except Error BlockFacts := do
  let height ← Argument.height "height" height
  let indexHash ← Argument.nonEmptyBytes "index_hash" indexHash
  let trieRoot ← Argument.nonEmptyBytes "trie_root_hash" trieRoot
  return ⟨height, indexHash, trieRoot⟩

/-- A height must lie above the one an environment has reached. -/
def Environment.advances (environment : Environment) (height : Int) : Except Error Unit :=
  match environment.maxHeight with
  | some maxHeight =>
    ensure (maxHeight < height) (.heightNotAdvancing environment.id height maxHeight)
  | none => .ok ()

namespace Store

/-- Sets the height that an environment has reached. -/
def setMaxHeight (s : Store) (environment : Int) (height : Option Int) : Store :=
  { s with
    environments := s.environments.map fun row =>
      if row.id = environment then { row with maxHeight := height } else row }

/-- A new block must advance an existing environment, under a hash that is new there. -/
def checkBlock (s : Store) (environment : Int) (facts : BlockFacts) : Except Error Unit := do
  storableId (s.environments.map (·.id)) environment
  let owner ← require (s.environment? environment) (.unknownEnvironment environment)
  owner.advances facts.height
  ensure (s.blockWithHash? environment facts.indexHash = none)
    (.blockRecorded facts.indexHash environment)

/-- Advances an environment to a height. -/
def advance (s : Store) (environment height : Int) : Except Error Store := do
  storable height
  return s.setMaxHeight environment (some height)

/-- Appends the row of a block. -/
def insertBlock (s : Store) (environment : Int) (facts : BlockFacts) :
    Except Error (Int × Store) := do
  ensure (s.blockAt? environment facts.height = none) (.heightRecorded facts.height)
  let id := nextId (s.blocks.map (·.id))
  let row : Block := ⟨id, environment, facts.height, facts.indexHash, facts.trieRoot⟩
  return (id, { s with blocks := s.blocks ++ [row] })

/-- Appends a block to an environment. -/
def recordBlock (s : Store) (environment : Int) (height indexHash trieRoot : Value) :
    Except Error (Int × Store) := do
  let facts ← BlockFacts.ofValues height indexHash trieRoot
  s.checkBlock environment facts
  let s ← s.advance environment facts.height
  s.insertBlock environment facts

/-- The block of an environment at a height. -/
def getBlock (s : Store) (environment height : Int) : Except Error Block := do
  storableId (s.environments.map (·.id)) environment
  storable height
  require (s.blockAt? environment height) (.noBlockAtHeight height environment)

/-- The block of an environment with an index hash. -/
def getBlockByHash (s : Store) (environment : Int) (indexHash : Value) : Except Error Block := do
  let indexHash ← Argument.bytes "index_hash" indexHash
  storableId (s.environments.map (·.id)) environment
  require (s.blockWithHash? environment indexHash) (.noBlockWithHash indexHash environment)

/-- The block with an id. -/
def getBlockById (s : Store) (id : Int) : Except Error Block := do
  storableId (s.blocks.map (·.id)) id
  require (s.block? id) (.noBlock id)

/-- Whether a height lies between two bounds, each of which may be open. -/
def withinBounds (start stop : Option Int) (height : Int) : Bool :=
  start.all (· ≤ height) && stop.all (height ≤ ·)

/-- A bound of a query must be an integer that the database can hold. -/
def storableBound : Option Int → Except Error Unit
  | some n => storable n
  | none => .ok ()

/-- The blocks of an environment between two heights, by height. -/
def listBlocks (s : Store) (environment : Int) (start stop : Option Int) :
    Except Error (List Block) := do
  storableId (s.environments.map (·.id)) environment
  storableBound start
  storableBound stop
  let rows := s.blocks.filter fun row =>
    row.environmentId = environment ∧ withinBounds start stop row.height
  return rows.mergeSort fun a b => a.height ≤ b.height

/-- The height that an environment has reached, if it has recorded a block. -/
def latestHeight (s : Store) (environment : Int) : Except Error (Option Int) := do
  return (← s.getEnvironment environment).maxHeight

end Store

end ReplayLedger
