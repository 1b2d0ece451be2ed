import ReplayLedger.Argument
import ReplayLedger.Association
import ReplayLedger.Payload.IntegerText
import ReplayLedger.Payload.Problem
import ReplayLedger.Store
import ReplayLedger.Text.Utf8

/-!
# Block payloads

A payload is everything that one environment recorded for one block.  It is handed over as a raw
record and checked field by field: every field is looked at, and all problems are reported together
in the order of the fields.

Binary fields take byte strings and hexadecimal text.  Integers also come as truth values, as
floating point numbers of the 64-bit range without fraction, and as numerals.  The environment is
given by its id or its name: an integer is an id and a text a name, whatever it looks like; of other
values an integer is tried first.
-/

namespace ReplayLedger

/-- A trie leaf that the block wrote. -/
structure EntryWrite where
  keyHash : Bytes
  value : Bytes
  deriving DecidableEq, Repr, Inhabited

/-- A contract that the block deployed. -/
structure Deployment where
  qualifiedId : String
  source : Bytes
  deriving DecidableEq, Repr, Inhabited

/-- A transaction that invoked a contract in the block. -/
structure Invocation where
  contract : String
  transactionId : Bytes
  deriving DecidableEq, Repr, Inhabited

/-- A value that an invocation gave to a variable. -/
structure VariableWrite where
  contract : String
  key : String
  transactionId : Bytes
  value : Bytes
  deriving DecidableEq, Repr, Inhabited

/-- A value that the block gave to a key of a map. -/
structure MapWrite where
  contract : String
  name : String
  keyHash : Bytes
  value : Bytes
  deriving DecidableEq, Repr, Inhabited

/-- Everything that one environment recorded for one block. -/
structure BlockPayload where
  environment : Reference
  height : Int
  indexHash : Bytes
  trieRoot : Bytes
  entries : List EntryWrite := []
  contracts : List Deployment := []
  executions : List Invocation := []
  varWrites : List VariableWrite := []
  mapWrites : List MapWrite := []
  deriving DecidableEq, Repr, Inhabited

namespace Payload

/-- A part of a payload, or all that is wrong with it. -/
abbrev Checked (α : Type) := Except (List Problem) α

namespace Checked

/-- Refuses a part as a whole. -/
def refuse {α : Type} (fault : Fault) : Checked α := .error [⟨[], fault⟩]

/-- Problems of a part, seen from the whole. -/
def inside {α : Type} (place : Place) : Checked α → Checked α
  | .ok a => .ok a
  | .error problems => .error (problems.map fun p => { p with place := place :: p.place })

/-- Two parts, with the problems of both. -/
def both {α β : Type} : Checked α → Checked β → Checked (α × β)
  | .ok a, .ok b => .ok (a, b)
  | .ok _, .error q => .error q
  | .error p, .ok _ => .error p
  | .error p, .error q => .error (p ++ q)

/-- All items of a list, with the problems of every one. -/
def all {α : Type} : List (Checked α) → Checked (List α)
  | [] => .ok []
  | first :: rest => (both first (all rest)).map fun (a, items) => a :: items

end Checked

open Checked

/-- The integer that a text stands for. -/
def numeral (s : String) : Checked Int :=
  match IntegerText.read s with
  | .number n => .ok n
  | .malformed => refuse .notNumeral
  | .tooLong => refuse .outOfRange

/-- The integers that a floating point number may stand for: those between the ends of the 64-bit
range. -/
def IsFloatInteger (n : Int) : Prop := -0x8000000000000000 < n ∧ n < 0x8000000000000000

instance (n : Int) : Decidable (IsFloatInteger n) := inferInstanceAs (Decidable (_ ∧ _))

/-- An integer. -/
def integer : Value → Checked Int
  | .int n => .ok n
  | .runtime kind => .ok kind.number
  | .bool b => .ok (if b then 1 else 0)
  | .float x =>
    match x.toInt? with
    | some n => if IsFloatInteger n then .ok n else refuse .outOfRange
    | none => refuse (if x.isFinite then .fractional else .notFinite)
  | .text s => numeral s
  | .illFormed _ => refuse .notUtf8
  | .bytes data =>
    match Utf8.decode? data with
    | some s => numeral s
    | none => refuse .notNumeral
  | _ => refuse .notInteger

/-- A height. -/
def height (v : Value) : Checked Int :=
  match integer v with
  | .ok n => if 0 ≤ n then .ok n else refuse .negative
  | .error problems => .error problems

/-- A text.  A runtime kind is taken for the text of its number. -/
def text : Value → Checked String
  | .text s => .ok s
  | .illFormed _ => refuse .notUtf8
  | .bytes data | .buffer data =>
    match Utf8.decode? data with
    | some s => .ok s
    | none => refuse .notUtf8
  | .runtime kind => .ok (Numeral.ofInt kind.number)
  | _ => refuse .notText

/-- A text that is not empty. -/
def nonEmptyText (v : Value) : Checked String :=
  match text v with
  | .ok s => if s = "" then refuse .emptyText else .ok s
  | .error problems => .error problems

/-- A byte string. -/
def rawBytes : Value → Checked Bytes
  | .bytes data | .buffer data => .ok data
  | _ => refuse .notBytes

/-- A byte string, or a hexadecimal text. -/
def hexBytes : Value → Checked Bytes
  | .text s =>
    match Argument.hex s with
    | .ok data => .ok data
    | .error e => refuse (.notHex e.message)
  | .illFormed t => refuse (.notHex (Error.badHexLiteral t.quoted))
  | v => rawBytes v

/-- A byte string, or a text in UTF-8. -/
def sourceBytes : Value → Checked Bytes
  | .text s => .ok (Utf8.encode s)
  | .illFormed t => refuse (.notEncodable t.complaint)
  | v => rawBytes v

/-- An environment: an id or a name.  Any text is taken for a name, well formed or not.  Where a
value is neither, both attempts are reported. -/
def reference : Value → Checked Reference
  | .text s => .ok (.name s)
  | .illFormed t => .ok (.illFormed t)
  | v =>
    match integer v, text v with
    | .ok n, _ => .ok (.id n)
    | _, .ok s => .ok (.name s)
    | .error p, .error q =>
      .error (p.map (fun x => { x with place := .field "int" :: x.place })
        ++ q.map fun x => { x with place := .field "str" :: x.place })

/-- The fields of a record. -/
abbrev Fields := List (String × Value)

/-- A field that must be there. -/
def field {α : Type} (fields : Fields) (name : String) (check : Value → Checked α) : Checked α :=
  inside (.field name) <|
    match Association.get? name fields with
    | some v => check v
    | none => refuse .missing

/-- A record of a model. -/
def record {α : Type} (model : String) (check : Fields → Checked α) : Value → Checked α
  | .record fields => check fields
  | _ => refuse (.notRecord model)

/-- The items of a value that is taken for a list.  A view of bytes is a list of integers. -/
def listed? : Value → Option (List Value)
  | .list values => some values
  | .view data => some (data.map fun b => .int b.toNat)
  | _ => none

/-- A list of items; without the field there are none. -/
def items {α : Type} (fields : Fields) (name : String) (check : Value → Checked α) :
    Checked (List α) :=
  inside (.field name) <|
    match Association.get? name fields with
    | none => .ok []
    | some v =>
      match listed? v with
      | some values => all (values.mapIdx fun i v => inside (.index i) (check v))
      | none => refuse .notList

/-- A trie leaf. -/
def entryWrite : Value → Checked EntryWrite :=
  record "StateWrite" fun fields =>
    (both (field fields "key_hash" hexBytes) (field fields "value" hexBytes)).map
      fun (keyHash, value) => ⟨keyHash, value⟩

/-- A deployment. -/
def deployment : Value → Checked Deployment :=
  record "ContractDeploy" fun fields =>
    (both (field fields "qualified_id" nonEmptyText) (field fields "source" sourceBytes)).map
      fun (qualifiedId, source) => ⟨qualifiedId, source⟩

/-- An invocation. -/
def invocation : Value → Checked Invocation :=
  record "ExecutionRecord" fun fields =>
    (both (field fields "contract" nonEmptyText) (field fields "tx_id" hexBytes)).map
      fun (contract, transactionId) => ⟨contract, transactionId⟩

/-- A write to a variable. -/
def variableWrite : Value → Checked VariableWrite :=
  record "VariableWrite" fun fields =>
    (both (field fields "contract" nonEmptyText) <|
      both (field fields "key" nonEmptyText) <|
      both (field fields "tx_id" hexBytes) (field fields "value" hexBytes)).map
      fun (contract, key, transactionId, value) => ⟨contract, key, transactionId, value⟩

/-- A write to a map. -/
def mapWrite : Value → Checked MapWrite :=
  record "MapWrite" fun fields =>
    (both (field fields "contract" nonEmptyText) <|
      both (field fields "name" nonEmptyText) <|
      both (field fields "key_hash" hexBytes) (field fields "value" hexBytes)).map
      fun (contract, name, keyHash, value) => ⟨contract, name, keyHash, value⟩

/-- A block payload. -/
def check : Value → Checked BlockPayload :=
  record "BlockPayload" fun fields =>
    (both (field fields "environment" reference) <|
      both (field fields "height" height) <|
      both (field fields "index_hash" hexBytes) <|
      both (field fields "trie_root_hash" hexBytes) <|
      both (items fields "entries" entryWrite) <|
      both (items fields "contracts" deployment) <|
      both (items fields "executions" invocation) <|
      both (items fields "variables" variableWrite) (items fields "maps" mapWrite)).map
      fun (environment, height, indexHash, trieRoot, entries, contracts, executions, varWrites,
          mapWrites) =>
        { environment, height, indexHash, trieRoot, entries, contracts, executions, varWrites, mapWrites }

end Payload

/-- The payload that a raw value holds. -/
def BlockPayload.ofValue (v : Value) : Except Error BlockPayload :=
  match Payload.check v with
  | .ok payload => .ok payload
  | .error problems => .error (.badPayload problems)

end ReplayLedger
