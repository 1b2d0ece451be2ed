import ReplayLedger.Command.Run

/-!
# Commands on a database that can only be read

Such a database is searched like any other one, and all checks that come before a change are made.
The first statement that would change it is refused, and the refusal quotes the statement with its
values.
-/

namespace ReplayLedger

/-- The statement that makes the first table of a new database. -/
def Error.tableRefused : Error :=
  .readOnly
    (some ("\nCREATE TABLE runtime (\n\tid INTEGER NOT NULL, \n\tname VARCHAR NOT NULL, "
      ++ "\n\tPRIMARY KEY (id)\n)\n\n"))
    []

/-- The refusal to insert an environment. -/
def Error.environmentRefused (row : Environment) : Error :=
  .readOnly
    (some "INSERT INTO environment (name, runtime_id, path, max_height) VALUES (?, ?, ?, ?)")
    [Quoted.text row.name, Numeral.ofInt row.runtime.number, Quoted.text row.path, "None"]

/-- The refusal to remove what an environment owns. -/
def Error.removalRefused (environment : Int) : Error :=
  .readOnly
    (some ("DELETE FROM contract_var_instance WHERE contract_var_instance.contract_var_id IN "
      ++ "(SELECT contract_var.id \nFROM contract_var \nWHERE contract_var.contract_id IN "
      ++ "(SELECT contract.id \nFROM contract \nWHERE contract.environment_id = ?)) "
      ++ "OR contract_var_instance.block_id IN "
      ++ "(SELECT block.id \nFROM block \nWHERE block.environment_id = ?)"))
    [Numeral.ofInt environment, Numeral.ofInt environment]

/-- The refusal to advance an environment to a height. -/
def Error.advanceRefused (environment height : Int) : Error :=
  .readOnly (some "UPDATE environment SET max_height=? WHERE environment.id = ?")
    [Numeral.ofInt height, Numeral.ofInt environment]

namespace Store

/-- Why a payload is not taken in. -/
def refusePayload (s : Store) (payload : BlockPayload) : Except Error Error := do
  let environment ← s.resolve payload.environment
  let facts ← BlockFacts.ofValues (.int payload.height) (.bytes payload.indexHash)
    (.bytes payload.trieRoot)
  s.checkBlock environment.id facts
  storable facts.height
  return .advanceRefused environment.id facts.height

/-- Why a line of a batch is not taken in. -/
def refuseLine (s : Store) (line : String) : LineFault :=
  match Json.read line with
  | .error e => e.toFault
  | .ok payload =>
    match BlockPayload.ofValue payload >>= s.refusePayload with
    | .ok e => .rejected e
    | .error e => .rejected e

/-- How a batch ends, given how many lines have been read: at the first line that is not blank. -/
def refuseLines (s : Store) (read : Nat) : List String → BatchEnd
  | [] => .complete 0
  | line :: rest =>
    if Text.IsBlankText line then s.refuseLines (read + 1) rest
    else .stopped line (read + 1) (s.refuseLine line)

end Store

namespace Command

/-- Runs a command on a store that can only be read. -/
def runReadOnly (place : String) (input : List String) (s : Store) (c : Command) : Outcome :=
  match c with
  | .createEnvironment name runtime path =>
    match s.createEnvironment (.text name) (.text runtime) (.text path) with
    | .ok (id, after) => .failure ((after.environment? id).elim .tableRefused .environmentRefused)
    | .error e => .failure e
  | .dropEnvironment ref confirmed =>
    (attempt s (s.resolveArgument ref) fun row =>
      asked confirmed row input s (.failure (.removalRefused row.id), s)).1
  | .ingest text => batchOutcome (s.refuseLines 0 (Text.lines text))
  | c => (c.run place input s).1

end Command

end ReplayLedger
