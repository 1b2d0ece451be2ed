import ReplayLedger.Comparison
import ReplayLedger.Json
import ReplayLedger.Payload

/-!
# Rows and reports as documents

In a document byte strings are marked hexadecimal text, and a runtime kind is its name.
-/

namespace ReplayLedger

/-- A raw value as a document. -/
def Value.scalarJson : Value → Json
  | .bool b => .bool b
  | .int n => .int n
  | .text s => .text s
  | .bytes data => .bytes data
  | .runtime kind => .text kind.name
  | _ => .null

/-- Named fields as a document. -/
def Json.ofFields (fields : List (String × Value)) : Json :=
  .object (fields.map fun (name, v) => (name, v.scalarJson))

/-- An integer that may be absent. -/
def Value.ofOptionInt : Option Int → Value
  | some n => .int n
  | none => .null

/-- An environment as a document. -/
def Environment.toJson (row : Environment) : Json :=
  Json.ofFields [("id", .int row.id), ("name", .text row.name), ("runtime", .runtime row.runtime),
    ("path", .text row.path), ("max_height", .ofOptionInt row.maxHeight)]

/-- A block as a document. -/
def Block.toJson (row : Block) : Json :=
  Json.ofFields [("id", .int row.id), ("environment_id", .int row.environmentId),
    ("height", .int row.height), ("index_hash", .bytes row.indexHash),
    ("trie_root_hash", .bytes row.trieRoot)]

/-- A contract as a document. -/
def Contract.toJson (row : Contract) : Json :=
  Json.ofFields [("id", .int row.id), ("environment_id", .int row.environmentId),
    ("block_id", .int row.blockId), ("qualified_id", .text row.qualifiedId),
    ("source", .bytes row.source)]

/-- An execution as a document. -/
def Execution.toJson (row : Execution) : Json :=
  Json.ofFields [("id", .int row.id), ("block_id", .int row.blockId),
    ("contract_id", .int row.contractId), ("transaction_id", .bytes row.transactionId)]

/-- A variable as a document. -/
def Variable.toJson (row : Variable) : Json :=
  Json.ofFields [("id", .int row.id), ("contract_id", .int row.contractId), ("key", .text row.key)]

/-- A variable instance as a document. -/
def VariableInstance.toJson (row : VariableInstance) : Json :=
  Json.ofFields [("id", .int row.id), ("variable_id", .int row.variableId),
    ("block_id", .int row.blockId), ("height", .int row.height),
    ("execution_id", .int row.executionId), ("value", .bytes row.value)]

/-- A map as a document. -/
def ContractMap.toJson (row : ContractMap) : Json :=
  Json.ofFields [("id", .int row.id), ("contract_id", .int row.contractId), ("name", .text row.name)]

/-- A map entry as a document. -/
def MapEntry.toJson (row : MapEntry) : Json :=
  Json.ofFields [("id", .int row.id), ("map_id", .int row.mapId), ("block_id", .int row.blockId),
    ("height", .int row.height), ("key_hash", .bytes row.keyHash), ("value", .bytes row.value)]

/-- An entry diff as a document. -/
def EntryDiff.toJson (diff : EntryDiff) : Json :=
  .array [.bytes diff.keyHash, .option .bytes diff.left, .option .bytes diff.right]

/-- A number of rows for each table, as a document. -/
def RowCounts.toJson (c : RowCounts) : Json :=
  Json.ofFields [("contract_var_instance", .int c.instances), ("contract_map_entry", .int c.mapEntries),
    ("contract_var", .int c.vars), ("contract_map", .int c.maps),
    ("contract_execution", .int c.executions), ("contract", .int c.contracts),
    ("marf_entry", .int c.entries), ("block", .int c.blocks), ("environment", .int c.environments)]

/-- The word for a verdict. -/
def Verdict.name : Verdict → String
  | agreement => "agreement"
  | disagreement => "disagreement"

namespace ContractSlot

/-- The word for the kind of contract data. -/
def kindName : ContractSlot → String
  | variableSlot _ => "variable"
  | mapSlot _ => "map_entry"

/-- The contract that the data belongs to. -/
def qualifiedId : ContractSlot → String
  | variableSlot slot => slot.qualifiedId
  | mapSlot slot => slot.qualifiedId

/-- The key of the variable, or the name of the map. -/
def name : ContractSlot → String
  | variableSlot slot => slot.key
  | mapSlot slot => slot.name

/-- The key of a map. -/
def keyHash? : ContractSlot → Option Bytes
  | variableSlot _ => none
  | mapSlot slot => some slot.keyHash

end ContractSlot

/-- A contract divergence as a document. -/
def ContractDivergence.toJson (d : ContractDivergence) : Json :=
  .object [("kind", .text d.slot.kindName), ("contract", .text d.slot.qualifiedId),
    ("name", .text d.slot.name), ("key_hash", .option .bytes d.slot.keyHash?),
    ("values", .object (d.values.map fun (environment, value) =>
      (Numeral.ofInt environment, .option .bytes value)))]

namespace Report

/-- The name of a compared environment. -/
def nameOf (r : Report) (environment : Int) : String :=
  ((r.environments.find? (·.id = environment)).map (·.name)).getD ""

/-- A report as a document; environments are named in it. -/
def toJson (r : Report) : Json :=
  .object [("height", .int r.height), ("verdict", .text r.verdict.name),
    ("contracts_agree", .bool r.contractsAgree),
    ("environments", .list Environment.toJson r.environments),
    ("trie_roots", .object (r.trieRoots.map fun (environment, root) =>
      (r.nameOf environment, .bytes root))),
    ("entry_divergences", .list (fun d : EntryDivergence =>
      .object [("key_hash", .bytes d.keyHash), ("environment", .text (r.nameOf d.environment)),
        ("value", .option .bytes d.value)]) r.entryDivergences),
    ("contract_divergences", .list ContractDivergence.toJson r.contractDivergences)]

/-- A report as a document, with what can be read off it. -/
def toFullJson (r : Report) : Json :=
  .object [("report", r.toJson),
    ("block_ids", .object (r.blocks.map fun (environment, block) =>
      (Numeral.ofInt environment, .int block.id))),
    ("roots_agree", .bool r.rootsAgree), ("is_agreement", .bool r.isAgreement),
    ("diverging_keys", .list .bytes r.divergingKeys)]

end Report

/-- A reference as a document: an id, or a name.  A text that is not well formed has no document. -/
def Reference.toJson : Reference → Json
  | .id n => .int n
  | .name s => .text s
  | .illFormed _ => .null

/-- A payload as a document. -/
def BlockPayload.toJson (p : BlockPayload) : Json :=
  .object [("environment", p.environment.toJson), ("height", .int p.height),
    ("index_hash", .bytes p.indexHash), ("trie_root_hash", .bytes p.trieRoot),
    ("entries", .list (fun w : EntryWrite => Json.ofFields
      [("key_hash", .bytes w.keyHash), ("value", .bytes w.value)]) p.entries),
    ("contracts", .list (fun w : Deployment => Json.ofFields
      [("qualified_id", .text w.qualifiedId), ("source", .bytes w.source)]) p.contracts),
    ("executions", .list (fun w : Invocation => Json.ofFields
      [("contract", .text w.contract), ("tx_id", .bytes w.transactionId)]) p.executions),
    ("variables", .list (fun w : VariableWrite => Json.ofFields
      [("contract", .text w.contract), ("key", .text w.key), ("tx_id", .bytes w.transactionId),
        ("value", .bytes w.value)]) p.varWrites),
    ("maps", .list (fun w : MapWrite => Json.ofFields
      [("contract", .text w.contract), ("name", .text w.name), ("key_hash", .bytes w.keyHash),
        ("value", .bytes w.value)]) p.mapWrites)]

/-- A problem of a payload as a document. -/
def Payload.Problem.toJson (p : Payload.Problem) : Json :=
  .object [("loc", .list (fun
      | .field name => .text name
      | .index i => .int i) p.place),
    ("type", .text p.fault.tag), ("msg", .text p.fault.message)]

end ReplayLedger
