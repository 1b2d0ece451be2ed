import ReplayLedger.Json
import ReplayLedger.Order

/-!
# Writer locks

Each environment has one writer at a time.  The registry makes a lock for an environment when it is
first asked for one, and keeps it in a slot until the slot is discarded.  Several locks are taken in
ascending order of the environments.  A lock that is held stays held when its slot is discarded; a
later request makes a new lock then.
-/

namespace ReplayLedger

/-- The lock of an environment.  Locks are numbered in the order in which they were made. -/
structure LockSlot where
  environment : Int
  lock : Nat
  deriving DecidableEq, Repr, Inhabited

/-- The registry of locks. -/
structure LockRegistry where
  /-- The slots, in the order in which they were made. -/
  slots : List LockSlot := []
  /-- How many locks have been made. -/
  made : Nat := 0
  /-- The locks that are held, the last one taken first; a lock taken twice is there twice. -/
  held : List Nat := []
  deriving DecidableEq, Repr, Inhabited

namespace LockRegistry

/-- The environments that have a slot. -/
def environments (r : LockRegistry) : List Int := r.slots.map (·.environment)

/-- The lock of an environment, made if there is none. -/
def get (r : LockRegistry) (environment : Int) : Nat × LockRegistry :=
  match r.slots.find? fun slot => slot.environment = environment with
  | some slot => (slot.lock, r)
  | none => (r.made, { r with slots := r.slots ++ [⟨environment, r.made⟩], made := r.made + 1 })

/-- Forgets the lock of an environment. -/
def discard (r : LockRegistry) (environment : Int) : LockRegistry :=
  { r with slots := r.slots.filter fun slot => slot.environment ≠ environment }

/-- Takes the lock of an environment. -/
def acquire (r : LockRegistry) (environment : Int) : LockRegistry :=
  let (lock, r) := r.get environment
  { r with held := lock :: r.held }

/-- Takes the locks of several environments, each once and in ascending order. -/
def acquireAll (r : LockRegistry) (environments : List Int) : LockRegistry :=
  (sortDistinct intLt environments).foldl acquire r

/-- Gives back the locks that were taken last. -/
def release (r : LockRegistry) (count : Nat) : LockRegistry :=
  { r with held := r.held.drop count }

end LockRegistry

/-- A step of a program that uses locks. -/
inductive LockStep where
  | get (environment : Int)
  /-- Runs a program while holding locks. -/
  | hold (environments : List Int) (inner : List LockStep)
  | discard (environment : Int)
  deriving Inhabited, Repr

/-- What a step shows: the environments that have a slot afterwards, and whether asking twice gives
the same lock, or what the inner steps show. -/
inductive LockTrace where
  | got (same : Bool) (slots : List Int)
  | heldWhile (inner : List LockTrace) (slots : List Int)
  | discarded (slots : List Int)
  deriving Inhabited, Repr

namespace LockStep

mutual

/-- Runs a step. -/
def run (r : LockRegistry) : LockStep → LockTrace × LockRegistry
  | get environment =>
    let (lock, r') := r.get environment
    (.got ((r'.get environment).1 = lock) r'.environments, r')
  | hold environments inner =>
    let (traces, r') := runAll (r.acquireAll environments) inner
    let r'' := r'.release (sortDistinct intLt environments).length
    (.heldWhile traces r''.environments, r'')
  | discard environment =>
    let r' := r.discard environment
    (.discarded r'.environments, r')

/-- Runs steps one after the other. -/
def runAll (r : LockRegistry) : List LockStep → List LockTrace × LockRegistry
  | [] => ([], r)
  | step :: rest =>
    let (trace, r) := run r step
    let (traces, r) := runAll r rest
    (trace :: traces, r)

end

end LockStep

namespace LockTrace

mutual

/-- What a step shows, as a document. -/
def toJson : LockTrace → Json
  | got same slots => .object [("slots", .list .int slots), ("same", .bool same)]
  | heldWhile inner slots => .object [("slots", .list .int slots), ("inner", .array (allToJson inner))]
  | discarded slots => .object [("slots", .list .int slots)]

/-- What several steps show. -/
def allToJson : List LockTrace → List Json
  | [] => []
  | trace :: rest => toJson trace :: allToJson rest

end

end LockTrace

end ReplayLedger
