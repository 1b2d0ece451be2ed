import ReplayLedger.Argument
import ReplayLedger.Json

/-!
# Triage of failures

A failure belongs to a category, has a priority, and either may pass by itself or not.  A hint says
what to do about it.  Failures that the store does not know are taken for troubles with the
database.
-/

namespace ReplayLedger

/-- What a failure is about. -/
inductive Category where
  | integrity
  | ordering
  | notFound
  | precondition
  | input
  | storage
  deriving DecidableEq, Repr, Inhabited

/-- The word for a category. -/
def Category.name : Category → String
  | integrity => "integrity"
  | ordering => "ordering"
  | notFound => "not_found"
  | precondition => "precondition"
  | input => "input"
  | storage => "storage"

/-- How urgent a failure is. -/
inductive Priority where
  | critical
  | high
  | low
  deriving DecidableEq, Repr, Inhabited

/-- The word for a priority. -/
def Priority.name : Priority → String
  | critical => "CRITICAL"
  | high => "HIGH"
  | low => "LOW"

/-- What to do about a failure. -/
structure Advice where
  category : Category
  priority : Priority
  recoverable : Bool
  hint : String
  deriving DecidableEq, Repr, Inhabited

namespace ErrorKind

/-- The kinds that breach integrity. -/
def isIntegrity : ErrorKind → Bool
  | integrity | duplicateName | duplicateBlock | conflict | duplicateContract | duplicateExecution
  | duplicateVariable | duplicateMap | unknownReference => true
  | _ => false

/-- The kinds that breach the order of blocks. -/
def isOrdering : ErrorKind → Bool
  | ordering | heightOutOfOrder => true
  | _ => false

/-- The kinds that the store reports on its own. -/
def isLedger : ErrorKind → Bool
  | badValue | overflow | badPayload | encoding | decoding | recursion | absence | form | address
  | unknownModule | absentModule | operational | database => false
  | _ => true

/-- Advice on failures that the store does not know. -/
def unknownAdvice : Advice :=
  ⟨.storage, .critical, false, "Check database connectivity and integrity"⟩

/-- Advice on a kind of errors. -/
def advice (kind : ErrorKind) : Advice :=
  if kind = missingBlock then
    ⟨.precondition, .low, true,
      "Wait until every compared environment has recorded the height, then compare again"⟩
  else if kind = notFound then
    ⟨.notFound, .low, true, "Caller decides whether the missing row is expected"⟩
  else if kind.isOrdering then
    ⟨.ordering, .critical, false,
      "Replay driver skipped or repeated a block; restart the environment replay"⟩
  else if kind.isIntegrity then
    ⟨.integrity, .critical, false,
      "Inspect the replay driver for double application of the block"⟩
  else if kind = invalidRuntimeKind then
    ⟨.input, .high, false, "Use one of the supported runtime kinds"⟩
  else if kind = validation then
    ⟨.input, .high, false, "Fix the malformed argument"⟩
  else unknownAdvice

/-- The families that a kind belongs to. -/
def families (kind : ErrorKind) : List String :=
  [(kind.isLedger, "LedgerError"), (kind.isIntegrity, "IntegrityViolation"),
    (kind.isOrdering, "OrderingViolation"),
    (kind = validation ∨ kind = invalidRuntimeKind ∨ kind = badValue ∨ kind = badPayload
        ∨ kind = encoding ∨ kind = decoding, "ValueError"),
    (kind = notFound, "LookupError")].filterMap
    fun ((member, name) : Bool × String) => if member then some name else none

end ErrorKind

end ReplayLedger
