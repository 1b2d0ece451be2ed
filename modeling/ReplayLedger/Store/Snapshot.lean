import ReplayLedger.Json.Reader
import ReplayLedger.Store.Tables

/-!
# Snapshots

A store is kept in a file as the document of its tables, and read back from it.  A document that
does not have the columns of every table is no snapshot.
-/

namespace ReplayLedger.Snapshot

/-- A column that holds bytes, as marked hexadecimal text. -/
def bytes? : Value → Option Bytes
  | .text s => Hex.read? s
  | _ => none

/-- A column that may be empty. -/
def optionInt? : Value → Option (Option Int)
  | .null => some none
  | v => v.int?.map some

/-- A column that holds the number of a runtime kind. -/
def runtime? (v : Value) : Option RuntimeKind :=
  v.int?.bind RuntimeKind.ofNumber?

/-- A row of the table of environments. -/
def environment? : List Value → Option Environment
  | [id, name, runtime, path, maxHeight] => do
    return ⟨← id.int?, ← name.text?, ← runtime? runtime, ← path.text?, ← optionInt? maxHeight⟩
  | _ => none

/-- A row of the table of blocks. -/
def block? : List Value → Option Block
  | [id, environment, height, indexHash, trieRoot] => do
    return ⟨← id.int?, ← environment.int?, ← height.int?, ← bytes? indexHash, ← bytes? trieRoot⟩
  | _ => none

/-- A row of the table of state entries. -/
def entry? : List Value → Option StateEntry
  | [id, block, keyHash, value] => do
    return ⟨← id.int?, ← block.int?, ← bytes? keyHash, ← bytes? value⟩
  | _ => none

/-- A row of the table of contracts. -/
def contract? : List Value → Option Contract
  | [id, environment, block, qualifiedId, source] => do
    return ⟨← id.int?, ← environment.int?, ← block.int?, ← qualifiedId.text?, ← bytes? source⟩
  | _ => none

/-- A row of the table of executions. -/
def execution? : List Value → Option Execution
  | [id, block, contract, transactionId] => do
    return ⟨← id.int?, ← block.int?, ← contract.int?, ← bytes? transactionId⟩
  | _ => none

/-- A row of the table of variables. -/
def declaredVariable? : List Value → Option Variable
  | [id, contract, key] => do return ⟨← id.int?, ← contract.int?, ← key.text?⟩
  | _ => none

/-- A row of the table of variable instances. -/
def instance? : List Value → Option VariableInstance
  | [id, varId, block, height, execution, value] => do
    return ⟨← id.int?, ← varId.int?, ← block.int?, ← height.int?, ← execution.int?, ← bytes? value⟩
  | _ => none

/-- A row of the table of maps. -/
def map? : List Value → Option ContractMap
  | [id, contract, name] => do return ⟨← id.int?, ← contract.int?, ← name.text?⟩
  | _ => none

/-- A row of the table of map entries. -/
def mapEntry? : List Value → Option MapEntry
  | [id, mapId, block, height, keyHash, value] => do
    return ⟨← id.int?, ← mapId.int?, ← block.int?, ← height.int?, ← bytes? keyHash, ← bytes? value⟩
  | _ => none

/-- The rows of a table. -/
def rows? {α : Type} (tables : List (String × Value)) (name : String) (row? : List Value → Option α) :
    Option (List α) :=
  match Association.get? name tables with
  | some (.list rows) => rows.mapM fun
    | .list columns => row? columns
    | _ => none
  | _ => none

/-- The store of which a value is the document. -/
def ofValue? : Value → Option Store
  | .record tables => do
    return {
      environments := ← rows? tables "environment" environment?
      blocks := ← rows? tables "block" block?
      entries := ← rows? tables "marf_entry" entry?
      contracts := ← rows? tables "contract" contract?
      executions := ← rows? tables "contract_execution" execution?
      vars := ← rows? tables "contract_var" declaredVariable?
      instances := ← rows? tables "contract_var_instance" instance?
      maps := ← rows? tables "contract_map" map?
      mapEntries := ← rows? tables "contract_map_entry" mapEntry? }
  | _ => none

/-- A store as the text of a snapshot. -/
def toText (s : Store) : String := s.tablesJson.indented ++ "\n"

/-- The store that a snapshot holds. -/
def ofText? (text : String) : Option Store :=
  (Json.read text).toOption.bind ofValue?

end ReplayLedger.Snapshot
