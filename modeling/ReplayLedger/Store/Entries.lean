import ReplayLedger.Association
import ReplayLedger.Order
import ReplayLedger.Store.Blocks

/-!
# State entries: the trie leaves of a block

A block holds at most one value for a key.  Two blocks are compared by the keys on which their
values differ, a key that only one of them holds included.
-/

namespace ReplayLedger

/-- A key whose value differs between two blocks; a missing side is `none`. -/
structure EntryDiff where
  keyHash : Bytes
  left : Option Bytes
  right : Option Bytes
  deriving DecidableEq, Repr, Inhabited

/-- The keys on which two tables of values differ, in ascending order, with both values. -/
def diffTables (left right : List (Bytes × Bytes)) : List EntryDiff :=
  let keys := sortDistinct Bytes.lt (left.map (·.1) ++ right.map (·.1))
  (keys.map fun key => ⟨key, Association.get? key left, Association.get? key right⟩).filter
    fun diff : EntryDiff => diff.left ≠ diff.right

namespace Store

/-- The block that a write refers to. -/
def referencedBlock (s : Store) (id : Int) : Except Error Block := do
  storableId (s.blocks.map (·.id)) id
  require (s.block? id) (.unknownBlock id)

/-- Records the value of a key as of a block. -/
def putEntry (s : Store) (block : Int) (keyHash value : Value) : Except Error (Int × Store) := do
  let keyHash ← Argument.nonEmptyBytes "key_hash" keyHash
  let value ← Argument.bytes "value" value
  let _ ← s.referencedBlock block
  ensure (s.entry? block keyHash = none) (.entryTaken block keyHash)
  let id := nextId (s.entries.map (·.id))
  let row : StateEntry := ⟨id, block, keyHash, value⟩
  return (id, { s with entries := s.entries ++ [row] })

/-- The value of a key as of a block, if the block holds one. -/
def getEntry (s : Store) (block : Int) (keyHash : Value) : Except Error (Option Bytes) := do
  let keyHash ← Argument.bytes "key_hash" keyHash
  storableId (s.blocks.map (·.id)) block
  return (s.entry? block keyHash).map (·.value)

/-- The values that a block holds, by key. -/
def entriesOf (s : Store) (block : Int) : List (Bytes × Bytes) :=
  (s.entries.filter fun row => row.blockId = block).map fun row => (row.keyHash, row.value)

/-- The values that an existing block holds, in ascending order of the keys. -/
def listEntries (s : Store) (block : Int) : Except Error (List (Bytes × Bytes)) := do
  let _ ← s.getBlockById block
  return (s.entriesOf block).mergeSort fun a b => !Bytes.lt b.1 a.1

/-- The keys whose values differ between two blocks. -/
def diffEntries (s : Store) (left right : Int) : Except Error (List EntryDiff) := do
  let _ ← s.getBlockById left
  let _ ← s.getBlockById right
  return diffTables (s.entriesOf left) (s.entriesOf right)

end Store

end ReplayLedger
