import ReplayLedger.Failure.Foreign
import ReplayLedger.Json
import ReplayLedger.Triage

/-!
# Failures

A failure is an error of the store, or comes from outside.  Errors of the store may be raised by
hand, with raw values in place of what the store would say; the result is looked at like any other
failure, and told with its category, its priority and a hint.
-/

namespace ReplayLedger

/-- A failure that is to be looked at. -/
inductive Failure where
  /-- An error of a kind, what it says, and what else is known about it. -/
  | stated (kind : ErrorKind) (message : Value) (metadata : List (String × Value))
  | foreign (f : Foreign)
  deriving Inhabited, Repr

namespace Failure

/-- The kinds of errors that can be raised by hand. -/
def kinds : List ErrorKind :=
  [.ledger, .validation, .invalidRuntimeKind, .integrity, .duplicateName, .duplicateBlock, .conflict,
    .duplicateContract, .duplicateExecution, .duplicateVariable, .duplicateMap, .unknownReference,
    .ordering, .heightOutOfOrder, .notFound, .missingBlock]

/-- What an error is raised with, and the kind that says so: three kinds take arguments of their
own, all others a message. -/
def parameters : ErrorKind → ErrorKind × List String
  | .invalidRuntimeKind => (.invalidRuntimeKind, ["value"])
  | .heightOutOfOrder => (.heightOutOfOrder, ["environment_id", "height", "max_height"])
  | .missingBlock => (.missingBlock, ["height", "environment_ids"])
  | _ => (.ledger, ["message"])

/-- The message about environments that lack a height. -/
def missingBlockText (height : Value) (environments : List Value) : String :=
  "No block at height " ++ height.display ++ " for environment(s) "
    ++ Value.commaSeparated (environments.map Value.display)

/-- What is known about environments that lack a height. -/
def missingBlockMetadata (height : Value) (environments : List Value) : List (String × Value) :=
  [("height", height), ("environment_ids", .list environments)]

/-- An error of the store as a failure. -/
def ofError (e : Error) : Failure :=
  match e with
  | .missingBlocks height environments =>
    .stated e.kind (.text e.message) (missingBlockMetadata (.int height) (environments.map .int))
  | e => .stated e.kind (.text e.message) []

/-- An error of a kind that is raised with some arguments. -/
def ofKind (kind : ErrorKind) (arguments : List Value) : Except Misuse Failure := do
  let (owner, names) := parameters kind
  Misuse.checkCount (owner.name ++ ".__init__()") names arguments.length
  match kind, arguments with
  | .heightOutOfOrder, [environment, height, maxHeight] =>
    return .stated kind (.text ("Height " ++ height.display ++ " does not advance environment "
      ++ environment.display ++ " (current max height " ++ maxHeight.display ++ ")")) []
  | .missingBlock, [height, environments] =>
    let environments ← environments.sorted
    return .stated kind (.text (missingBlockText height environments))
      (missingBlockMetadata height environments)
  | .invalidRuntimeKind, [v] =>
    return .stated kind (.text (Error.message (.unsupportedRuntime v.literal))) []
  | kind, arguments => return .stated kind (arguments.headD .null) []

/-- The failure with a name that is raised with some arguments. -/
def ofArguments (name : String) (arguments : List Value) : Except Misuse Failure :=
  match kinds.find? (·.name = name) with
  | some kind => ofKind kind arguments
  | none => (Foreign.ofArguments name arguments).map .foreign

/-- The name of a failure. -/
def name : Failure → String
  | stated kind _ _ => kind.name
  | foreign f => f.name

/-- The families of a failure. -/
def families : Failure → List String
  | stated kind _ _ => kind.families
  | foreign f => f.families

/-- What a failure says. -/
def description : Failure → Value
  | stated _ message _ => message
  | foreign f => .text f.description

/-- Advice on a failure. -/
def advice : Failure → Advice
  | stated kind _ _ => kind.advice
  | foreign _ => ErrorKind.unknownAdvice

/-- What else is known about a failure. -/
def metadata : Failure → List (String × Value)
  | stated _ _ metadata => metadata
  | foreign _ => []

/-- A failure with the advice on it, as a document. -/
def toJson (f : Failure) : Json :=
  .object [("error_type", .text f.name), ("category", .text f.advice.category.name),
    ("priority", .text f.advice.priority.name), ("recoverable", .bool f.advice.recoverable),
    ("description", .ofValue f.description), ("mitigation_strategy", .text f.advice.hint),
    ("metadata", .object (Json.ofNamedValues f.metadata)), ("bases", .list .text f.families)]

end Failure

end ReplayLedger
