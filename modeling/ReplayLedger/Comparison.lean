import ReplayLedger.Store.Contracts
import ReplayLedger.Store.Maps

/-!
# Comparing environments at a height

The blocks of several environments at one height are the same position of the chain, executed by
different runtimes.  Whether they agree is decided by their trie roots alone.  Where the roots
differ, every pair of blocks is compared leaf by leaf, and each key on which some pair differs is
reported with the value of every environment.  Variables and map keys written at the blocks are
compared as well, whatever the roots say.
-/

namespace ReplayLedger

/-- Whether the compared environments agree. -/
inductive Verdict where
  | agreement
  | disagreement
  deriving DecidableEq, Repr, Inhabited

/-- The value that one environment holds for a key on which not all agree. -/
structure EntryDivergence where
  keyHash : Bytes
  environment : Int
  value : Option Bytes
  deriving DecidableEq, Repr, Inhabited

/-- A place of contract data: a variable, or a key of a map. -/
inductive ContractSlot where
  | variableSlot (slot : VariableSlot)
  | mapSlot (slot : MapSlot)
  deriving DecidableEq, Repr, Inhabited

/-- Contract data that was not written with the same value in all environments. -/
structure ContractDivergence where
  slot : ContractSlot
  /-- The value in each environment, by its id. -/
  values : List (Int × Option Bytes)
  deriving DecidableEq, Repr, Inhabited

/-- The outcome of comparing several environments at one height. -/
structure Report where
  height : Int
  environments : List Environment
  /-- The block of each environment, by its id. -/
  blocks : List (Int × Block)
  verdict : Verdict
  entryDivergences : List EntryDivergence
  contractDivergences : List ContractDivergence
  deriving DecidableEq, Repr, Inhabited

/-- All items of a list are the same. -/
def allEqual {α : Type} [DecidableEq α] : List α → Bool
  | [] => true
  | a :: rest => rest.all fun b => a = b

namespace Report

/-- The trie root of each environment, by its id. -/
def trieRoots (r : Report) : List (Int × Bytes) :=
  r.blocks.map fun (environment, block) => (environment, block.trieRoot)

/-- All trie roots are the same. -/
def rootsAgree (r : Report) : Bool := allEqual (r.trieRoots.map (·.2))

/-- No contract data diverges. -/
def contractsAgree (r : Report) : Bool := r.contractDivergences.isEmpty

/-- The environments agree. -/
def isAgreement (r : Report) : Bool := r.verdict = .agreement

/-- The keys on which the environments disagree, in ascending order. -/
def divergingKeys (r : Report) : List Bytes :=
  sortDistinct Bytes.lt (r.entryDivergences.map (·.keyHash))

end Report

/-- The slots of some tables that do not have the same value in all of them, in ascending order,
with the value in each table. -/
def divergingSlots {κ : Type} [DecidableEq κ] (lt : κ → κ → Bool)
    (tables : List (Int × List (κ × Bytes))) : List (κ × List (Int × Option Bytes)) :=
  let slots := sortDistinct lt (tables.flatMap fun (_, table) => table.map (·.1))
  (slots.map fun slot =>
    (slot, tables.map fun (environment, table) => (environment, Association.get? slot table))).filter
    fun (_, values) => !allEqual (values.map (·.2))

namespace Store

/-- The distinct environments that references stand for, in the order of their first mention. -/
def resolveDistinct (s : Store) (refs : List Reference) : Except Error (List Environment) :=
  refs.foldlM (fun known ref => do
    let environment ← s.resolve ref
    return if known.any (·.id = environment.id) then known else known ++ [environment]) []

/-- The block of each environment at a height.  If blocks are missing, all of their environments are
named. -/
def blocksAt (s : Store) (environments : List Int) (height : Int) :
    Except Error (List (Int × Block)) := do
  storable height
  let missing := environments.filter fun environment => (s.blockAt? environment height).isNone
  ensure (missing = []) (.missingBlocks height (sortDistinct intLt missing))
  return environments.filterMap fun environment =>
    (s.blockAt? environment height).map (environment, ·)

/-- The keys on which some pair of blocks differs, in ascending order. -/
def divergingKeys (s : Store) (blocks : List (Int × Block)) : List Bytes :=
  sortDistinct Bytes.lt <| (pairs blocks).flatMap fun ((_, a), (_, b)) =>
    (diffTables (s.entriesOf a.id) (s.entriesOf b.id)).map (·.keyHash)

/-- For each key on which some pair of blocks differs, the value in every block. -/
def entryDivergences (s : Store) (blocks : List (Int × Block)) : List EntryDivergence :=
  (s.divergingKeys blocks).flatMap fun key =>
    blocks.map fun (environment, block) =>
      ⟨key, environment, Association.get? key (s.entriesOf block.id)⟩

/-- The variables, and then the map keys, that were not written with the same value at all
blocks. -/
def contractDivergences (s : Store) (blocks : List (Int × Block)) : List ContractDivergence :=
  let varSlots := divergingSlots VariableSlot.lt
    (blocks.map fun (environment, block) => (environment, s.variableTable block.id))
  let mapSlots := divergingSlots MapSlot.lt
    (blocks.map fun (environment, block) => (environment, s.mapTable block.id))
  varSlots.map (fun (slot, values) => ⟨.variableSlot slot, values⟩)
    ++ mapSlots.map fun (slot, values) => ⟨.mapSlot slot, values⟩

/-- Compares at least two distinct environments at a height that all of them have recorded. -/
def compareHeights (s : Store) (refs : List Reference) (height : Value) : Except Error Report := do
  let height ← Argument.height "height" height
  let environments ← s.resolveDistinct refs
  ensure (2 ≤ environments.length) .tooFewEnvironments
  let blocks ← s.blocksAt (environments.map (·.id)) height
  let agree := allEqual (blocks.map fun (_, block) => block.trieRoot)
  return {
    height, environments, blocks
    verdict := if agree then .agreement else .disagreement
    entryDivergences := if agree then [] else s.entryDivergences blocks
    contractDivergences := s.contractDivergences blocks }

end Store

end ReplayLedger
