import ReplayLedger.Store.Variables

/-!
# Contract maps

A map holds at most one value for a key at a block.  What it held for a key at a height is the entry
with the greatest height not above it.
-/

namespace ReplayLedger

/-- A key of a map as the chain names it, the same in every environment. -/
structure MapSlot where
  qualifiedId : String
  name : String
  keyHash : Bytes
  deriving DecidableEq, Repr, Inhabited

/-- The order of map slots: by contract, then by map, then by key. -/
def MapSlot.lt (a b : MapSlot) : Bool :=
  thenLt textLt (thenLt textLt Bytes.lt) (a.qualifiedId, a.name, a.keyHash)
    (b.qualifiedId, b.name, b.keyHash)

/-- The order of entries in a history: by height. -/
def MapEntry.below (a b : MapEntry) : Bool := intLt a.height b.height

namespace Store

/-- Declares a map of a contract. -/
def declareMap (s : Store) (contract : Int) (name : Value) : Except Error (Int × Store) := do
  let name ← Argument.name "name" name
  let _ ← s.referencedContract contract
  let name ← name.encoded
  ensure (s.mapNamed? contract name = none) (.mapDeclared contract name)
  let id := nextId (s.maps.map (·.id))
  let row : ContractMap := ⟨id, contract, name⟩
  return (id, { s with maps := s.maps ++ [row] })

/-- The id of the map that a contract declares under a name, if there is one. -/
def findMap (s : Store) (contract : Int) (name : String) : Except Error (Option Int) := do
  storableId (s.contracts.map (·.id)) contract
  return (s.mapNamed? contract name).map (·.id)

/-- The map with an id. -/
def getMap (s : Store) (id : Int) : Except Error ContractMap := do
  storableId (s.maps.map (·.id)) id
  require (s.map? id) (.noMap id)

/-- The map with an id and the contract that declares it. -/
def mapOwner? (s : Store) (id : Int) : Option (ContractMap × Contract) := do
  let declared ← s.map? id
  let owner ← s.contract? declared.contractId
  return (declared, owner)

/-- Records the value of a key of a map as of a block of the contract's environment. -/
def putMapEntry (s : Store) (mapId block : Int) (keyHash value : Value) :
    Except Error (Int × Store) := do
  let keyHash ← Argument.nonEmptyBytes "key_hash" keyHash
  let value ← Argument.bytes "value" value
  storableId (s.maps.map (·.id)) mapId
  let (_, owner) ← require (s.mapOwner? mapId) (.unknownMap mapId)
  let home ← s.ownedBlock block owner.environmentId
  ensure (s.mapEntry? mapId block keyHash = none) (.mapEntryTaken mapId keyHash block)
  let id := nextId (s.mapEntries.map (·.id))
  let row : MapEntry := ⟨id, mapId, block, home.height, keyHash, value⟩
  return (id, { s with mapEntries := s.mapEntries ++ [row] })

/-- What a map held for a key at a height. -/
def latestMapEntry (s : Store) (mapId : Int) (keyHash asOf : Value) :
    Except Error (Option MapEntry) := do
  let keyHash ← Argument.bytes "key_hash" keyHash
  let height ← Argument.height "as_of_height" asOf
  let _ ← s.getMap mapId
  storable height
  return greatest? MapEntry.below
    (s.mapEntries.filter fun row => row.mapId = mapId ∧ row.keyHash = keyHash ∧ row.height ≤ height)

/-- The map slot that an entry was written to. -/
def slotOfMapEntry? (s : Store) (row : MapEntry) : Option MapSlot := do
  let (declared, owner) ← s.mapOwner? row.mapId
  return ⟨owner.qualifiedId, declared.name, row.keyHash⟩

/-- The value of every map slot that was written at a block. -/
def mapTable (s : Store) (block : Int) : List (MapSlot × Bytes) :=
  Association.ofWrites <| (s.mapEntries.filter fun row => row.blockId = block).filterMap fun row =>
    (s.slotOfMapEntry? row).map (·, row.value)

/-- The value of every map slot that was written at a block, in the order of slots. -/
def mapWritesAt (s : Store) (block : Int) : Except Error (List (MapSlot × Bytes)) := do
  storableId (s.blocks.map (·.id)) block
  return (s.mapTable block).mergeSort fun a b => !MapSlot.lt b.1 a.1

end Store

end ReplayLedger
