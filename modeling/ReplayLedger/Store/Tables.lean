import ReplayLedger.Store.Document

/-!
# Looking into the tables

Every table can be listed row by row, and some rows describe themselves in a short form.  The three
runtime kinds are a table of their own, which never changes.
-/

namespace ReplayLedger

/-- The tables of which a row can describe itself. -/
inductive DescribedTable where
  | runtime
  | environment
  | block
  | entry
  | contract
  deriving DecidableEq, Repr, Inhabited

/-- The first eight digits of a byte string. -/
def shortHex (bs : Bytes) : String := String.ofList ((Hex.digits bs).take 8) ++ "..."

/-- A runtime kind in short form. -/
def RuntimeKind.describe (kind : RuntimeKind) : String :=
  "<Runtime(id=" ++ Numeral.ofInt kind.number ++ ", name='" ++ kind.label ++ "')>"

/-- An environment in short form. -/
def Environment.describe (row : Environment) : String :=
  "<Environment(id=" ++ Numeral.ofInt row.id ++ ", name='" ++ row.name ++ "', runtime="
    ++ Numeral.ofInt row.runtime.number ++ ")>"

/-- A block in short form. -/
def Block.describe (row : Block) : String :=
  "<Block(environment=" ++ Numeral.ofInt row.environmentId ++ ", height=" ++ Numeral.ofInt row.height
    ++ ", hash='" ++ shortHex row.indexHash ++ "')>"

/-- A state entry in short form. -/
def StateEntry.describe (row : StateEntry) : String :=
  "<MarfEntry(block=" ++ Numeral.ofInt row.blockId ++ ", key='" ++ shortHex row.keyHash ++ "')>"

/-- A contract in short form. -/
def Contract.describe (row : Contract) : String :=
  "<Contract(environment=" ++ Numeral.ofInt row.environmentId ++ ", id='" ++ row.qualifiedId ++ "')>"

namespace Store

/-- The state entry with an id. -/
def entryWithId? (s : Store) (id : Int) : Option StateEntry :=
  s.entries.find? fun row => row.id = id

/-- A row in short form. -/
def describe (s : Store) (table : DescribedTable) (id : Int) : Except Error String := do
  storable id
  let description := match table with
    | .runtime => (RuntimeKind.ofNumber? id).map RuntimeKind.describe
    | .environment => (s.environment? id).map Environment.describe
    | .block => (s.block? id).map Block.describe
    | .entry => (s.entryWithId? id).map StateEntry.describe
    | .contract => (s.contract? id).map Contract.describe
  return description.getD "None"

/-- Overwrites the height that an environment has reached, as damage to the database would.  There
must be such an environment. -/
def overwriteMaxHeight (s : Store) (environment : Int) (height : Option Int) : Except Error Store := do
  storable environment
  let _ ← require (s.environment? environment) (.absentRow "max_height")
  storableBound height
  return s.setMaxHeight environment height

/-- All tables, every row as the list of its columns. -/
def tablesJson (s : Store) : Json :=
  .object [
    ("runtime", .list (fun kind : RuntimeKind => .array [.int kind.number, .text kind.label])
      RuntimeKind.all),
    ("environment", .list (fun row : Environment => .array [.int row.id, .text row.name,
      .int row.runtime.number, .text row.path, .option .int row.maxHeight]) s.environments),
    ("block", .list (fun row : Block => .array [.int row.id, .int row.environmentId, .int row.height,
      .bytes row.indexHash, .bytes row.trieRoot]) s.blocks),
    ("marf_entry", .list (fun row : StateEntry => .array [.int row.id, .int row.blockId,
      .bytes row.keyHash, .bytes row.value]) s.entries),
    ("contract", .list (fun row : Contract => .array [.int row.id, .int row.environmentId,
      .int row.blockId, .text row.qualifiedId, .bytes row.source]) s.contracts),
    ("contract_execution", .list (fun row : Execution => .array [.int row.id, .int row.blockId,
      .int row.contractId, .bytes row.transactionId]) s.executions),
    ("contract_var", .list (fun row : Variable => .array [.int row.id, .int row.contractId,
      .text row.key]) s.vars),
    ("contract_var_instance", .list (fun row : VariableInstance => .array [.int row.id,
      .int row.variableId, .int row.blockId, .int row.height, .int row.executionId, .bytes row.value])
      s.instances),
    ("contract_map", .list (fun row : ContractMap => .array [.int row.id, .int row.contractId,
      .text row.name]) s.maps),
    ("contract_map_entry", .list (fun row : MapEntry => .array [.int row.id, .int row.mapId,
      .int row.blockId, .int row.height, .bytes row.keyHash, .bytes row.value]) s.mapEntries)]

end Store

end ReplayLedger
