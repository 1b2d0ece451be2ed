import ReplayLedger.Argument
import ReplayLedger.RuntimeKind

/-!
# The store

The store is one value: nine tables, each a list of rows in the order in which they were inserted.
Rows refer to rows of other tables by id.  A new row gets the largest id of its table plus one, so
ids rise along every table and are used again after the last rows have gone.  Tables have no last
id: there is always a next one, and the ids of rows can always be looked for.

* an **environment** is one replay of the chain by one runtime, with the height it has reached;
* a **block** belongs to an environment, has a height and a hash there, and the root of the state
  trie;
* a **state entry** is a trie leaf that a block wrote;
* a **contract** is deployed by a block, under an identifier that is unique in the environment;
* an **execution** is a transaction that invoked a contract at a block;
* a **variable** and a **map** are declared by a contract;
* a **variable instance** and a **map entry** are values written at a block, with a copy of its
  height.

An operation is a function from a store to a new one, or to an error.  What fails has no store to go
on with, so nothing of it is kept.
-/

namespace ReplayLedger

/-- One replay of the chain under one runtime. -/
structure Environment where
  id : Int
  name : String
  runtime : RuntimeKind
  path : String
  /-- The height of the last block recorded, if there is any. -/
  maxHeight : Option Int
  deriving DecidableEq, Repr, Inhabited

/-- A block that an environment recorded, and the trie root it produced. -/
structure Block where
  id : Int
  environmentId : Int
  height : Int
  indexHash : Bytes
  trieRoot : Bytes
  deriving DecidableEq, Repr, Inhabited

/-- A trie leaf that a block wrote. -/
structure StateEntry where
  id : Int
  blockId : Int
  keyHash : Bytes
  value : Bytes
  deriving DecidableEq, Repr, Inhabited

/-- A contract that a block deployed. -/
structure Contract where
  id : Int
  environmentId : Int
  blockId : Int
  qualifiedId : String
  source : Bytes
  deriving DecidableEq, Repr, Inhabited

/-- A transaction that invoked a contract at a block. -/
structure Execution where
  id : Int
  blockId : Int
  contractId : Int
  transactionId : Bytes
  deriving DecidableEq, Repr, Inhabited

/-- A persistent variable of a contract. -/
structure Variable where
  id : Int
  contractId : Int
  key : String
  deriving DecidableEq, Repr, Inhabited

/-- A value that an execution gave to a variable at a block. -/
structure VariableInstance where
  id : Int
  variableId : Int
  blockId : Int
  height : Int
  executionId : Int
  value : Bytes
  deriving DecidableEq, Repr, Inhabited

/-- A map of a contract. -/
structure ContractMap where
  id : Int
  contractId : Int
  name : String
  deriving DecidableEq, Repr, Inhabited

/-- A value given to a key of a map at a block. -/
structure MapEntry where
  id : Int
  mapId : Int
  blockId : Int
  height : Int
  keyHash : Bytes
  value : Bytes
  deriving DecidableEq, Repr, Inhabited

/-- The nine tables. -/
@[ext]
structure Store where
  environments : List Environment := []
  blocks : List Block := []
  entries : List StateEntry := []
  contracts : List Contract := []
  executions : List Execution := []
  vars : List Variable := []
  instances : List VariableInstance := []
  maps : List ContractMap := []
  mapEntries : List MapEntry := []
  deriving DecidableEq, Repr, Inhabited

/-- An environment named by its id or by its name. -/
inductive Reference where
  | id (n : Int)
  | name (s : String)
  /-- A text that no environment can have for a name. -/
  | illFormed (t : IllFormed)
  deriving DecidableEq, Repr, Inhabited

/-- The integers that the database can hold: the signed ones of 64 bits. -/
def Storable (n : Int) : Prop := -0x8000000000000000 ≤ n ∧ n < 0x8000000000000000

instance (n : Int) : Decidable (Storable n) := inferInstanceAs (Decidable (_ ∧ _))

/-- Every integer that reaches the database must be one it can hold. -/
def storable (n : Int) : Except Error Unit := ensure (Storable n) .integerTooLarge

/-- An id that is looked for must be an integer that the database can hold, as the ids of its rows
are. -/
def storableId (ids : List Int) (id : Int) : Except Error Unit :=
  ensure (Storable id ∨ id ∈ ids) .integerTooLarge

/-- Every name that reaches the database must be well formed. -/
def RawName.encoded : RawName → Except Error String
  | text s => .ok s
  | illFormed t => .error (.unencodable t)

/-- The id of the next row of a table with the given ids. -/
def nextId (ids : List Int) : Int := ids.foldl max 0 + 1

/-- The row of a list that is below no other, the first one if there are several. -/
def greatest? {α : Type} (below : α → α → Bool) : List α → Option α
  | [] => none
  | a :: rest => some (rest.foldl (fun best x => if below best x then x else best) a)

namespace Store

/-- The store in which nothing is recorded. -/
def empty : Store := {}

/-- The environment with an id. -/
def environment? (s : Store) (id : Int) : Option Environment :=
  s.environments.find? fun row => row.id = id

/-- The environment with a name. -/
def environmentNamed? (s : Store) (name : String) : Option Environment :=
  s.environments.find? fun row => row.name = name

/-- The block with an id. -/
def block? (s : Store) (id : Int) : Option Block :=
  s.blocks.find? fun row => row.id = id

/-- The block of an environment at a height. -/
def blockAt? (s : Store) (environment height : Int) : Option Block :=
  s.blocks.find? fun row => row.environmentId = environment ∧ row.height = height

/-- The block of an environment with an index hash. -/
def blockWithHash? (s : Store) (environment : Int) (indexHash : Bytes) : Option Block :=
  s.blocks.find? fun row => row.environmentId = environment ∧ row.indexHash = indexHash

/-- The entry of a block for a key. -/
def entry? (s : Store) (block : Int) (keyHash : Bytes) : Option StateEntry :=
  s.entries.find? fun row => row.blockId = block ∧ row.keyHash = keyHash

/-- The contract with an id. -/
def contract? (s : Store) (id : Int) : Option Contract :=
  s.contracts.find? fun row => row.id = id

/-- The contract that an environment knows under an identifier. -/
def contractNamed? (s : Store) (environment : Int) (qualifiedId : String) : Option Contract :=
  s.contracts.find? fun row => row.environmentId = environment ∧ row.qualifiedId = qualifiedId

/-- The execution with an id. -/
def execution? (s : Store) (id : Int) : Option Execution :=
  s.executions.find? fun row => row.id = id

/-- The execution of a contract by a transaction at a block. -/
def executionOf? (s : Store) (block contract : Int) (transactionId : Bytes) : Option Execution :=
  s.executions.find? fun row =>
    row.blockId = block ∧ row.contractId = contract ∧ row.transactionId = transactionId

/-- The variable with an id. -/
def variableWithId? (s : Store) (id : Int) : Option Variable :=
  s.vars.find? fun row => row.id = id

/-- The variable that a contract declares under a key. -/
def variableNamed? (s : Store) (contract : Int) (key : String) : Option Variable :=
  s.vars.find? fun row => row.contractId = contract ∧ row.key = key

/-- The map with an id. -/
def map? (s : Store) (id : Int) : Option ContractMap :=
  s.maps.find? fun row => row.id = id

/-- The map that a contract declares under a name. -/
def mapNamed? (s : Store) (contract : Int) (name : String) : Option ContractMap :=
  s.maps.find? fun row => row.contractId = contract ∧ row.name = name

/-- The entry of a map for a key at a block. -/
def mapEntry? (s : Store) (map block : Int) (keyHash : Bytes) : Option MapEntry :=
  s.mapEntries.find? fun row => row.mapId = map ∧ row.blockId = block ∧ row.keyHash = keyHash

end Store

end ReplayLedger
