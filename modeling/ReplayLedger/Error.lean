import ReplayLedger.Payload.Problem
import ReplayLedger.Text.Numeral
import ReplayLedger.Text.Quoted
import ReplayLedger.Text.Surrogate
import ReplayLedger.Text.Utf8

/-!
# Errors

Every failure of the store has one of the causes of `Error`.  Causes fall into kinds, and kinds into
four families: a write that breaks the integrity of the store, a block that does not advance its
environment, a read that finds nothing, and a malformed argument.  The wording of every message
stands in `Error.message` and nowhere else.
-/

namespace ReplayLedger

/-- The kinds of errors. -/
inductive ErrorKind where
  | ledger
  | validation
  | invalidRuntimeKind
  | integrity
  | duplicateName
  | duplicateBlock
  | conflict
  | duplicateContract
  | duplicateExecution
  | duplicateVariable
  | duplicateMap
  | unknownReference
  | ordering
  | heightOutOfOrder
  | notFound
  | missingBlock
  /-- A request that makes no sense, outside the families of the store. -/
  | badValue
  /-- An integer that the database cannot hold. -/
  | overflow
  /-- A payload without the required shape. -/
  | badPayload
  /-- A text that has no UTF-8 form. -/
  | encoding
  /-- Bytes that are not the UTF-8 form of a text. -/
  | decoding
  /-- A document with too many levels. -/
  | recursion
  /-- A part of something that is not there. -/
  | absence
  /-- A value of the wrong form. -/
  | form
  /-- An address that names no database of a known form. -/
  | address
  /-- A kind of databases, or an extension, that nothing is known of. -/
  | unknownModule
  /-- A kind of databases that is known, but cannot be reached. -/
  | absentModule
  /-- A database that cannot be opened. -/
  | operational
  /-- A file that is taken for a database and is none. -/
  | database
  deriving DecidableEq, Repr, Inhabited

/-- The name of a kind of errors. -/
def ErrorKind.name : ErrorKind → String
  | ledger => "LedgerError"
  | validation => "ValidationError"
  | invalidRuntimeKind => "InvalidRuntimeKind"
  | integrity => "IntegrityViolation"
  | duplicateName => "DuplicateNameError"
  | duplicateBlock => "DuplicateBlockError"
  | conflict => "ConflictError"
  | duplicateContract => "DuplicateContractError"
  | duplicateExecution => "DuplicateExecutionError"
  | duplicateVariable => "DuplicateVariableError"
  | duplicateMap => "DuplicateMapError"
  | unknownReference => "UnknownReferenceError"
  | ordering => "OrderingViolation"
  | heightOutOfOrder => "HeightOutOfOrderError"
  | notFound => "NotFoundError"
  | missingBlock => "MissingBlockError"
  | badValue => "ValueError"
  | overflow => "OverflowError"
  | badPayload => "PayloadValidationError"
  | encoding => "UnicodeEncodeError"
  | decoding => "UnicodeDecodeError"
  | recursion => "RecursionError"
  | absence => "AttributeError"
  | form => "TypeError"
  | address => "ArgumentError"
  | unknownModule => "NoSuchModuleError"
  | absentModule => "ModuleNotFoundError"
  | operational => "OperationalError"
  | database => "DatabaseError"

/-- Why an operation fails. -/
inductive Error where
  -- malformed arguments
  | notBytes (field form : String)
  | emptyBytes (field : String)
  | notInteger (field form : String)
  | negativeHeight (field : String) (height : Int)
  | blankName (field : String)
  | badHex (text : String)
  | unsupportedRuntime (literal : String)
  -- breaches of uniqueness
  | nameTaken (name : String)
  | blockRecorded (indexHash : Bytes) (environment : Int)
  | heightRecorded (height : Int)
  | entryTaken (block : Int) (keyHash : Bytes)
  | contractDeployed (qualifiedId : String) (environment : Int)
  | executionLogged (transactionId : Bytes) (contract block : Int)
  | variableDeclared (contract : Int) (key : String)
  | mapDeclared (contract : Int) (name : String)
  | mapEntryTaken (map : Int) (keyHash : Bytes) (block : Int)
  -- references to rows that do not exist or belong elsewhere
  | unknownEnvironment (id : Int)
  | unknownBlock (id : Int)
  | unknownContract (id : Int)
  | unknownVariable (id : Int)
  | unknownMap (id : Int)
  | contractElsewhere (contract environment : Int)
  | contractNotDeployed (qualifiedId environment : String)
  | blockElsewhere (block environment : Int)
  | executionElsewhere (execution block : Int)
  | executionOfOther (execution contract owned : Int)
  | writerNotExecuted (key qualifiedId : String) (transactionId : Bytes)
  -- order of blocks
  | heightNotAdvancing (environment height maxHeight : Int)
  -- reads that find nothing
  | noEnvironment (id : Int)
  | noEnvironmentNamed (name : String)
  | noBlock (id : Int)
  | noBlockAtHeight (height environment : Int)
  | noBlockWithHash (indexHash : Bytes) (environment : Int)
  | noContract (id : Int)
  | noContractNamed (qualifiedId : String) (environment : Int)
  | noVariable (id : Int)
  | noMap (id : Int)
  | missingBlocks (height : Int) (environments : List Int)
  -- outside the families of the store
  | tooFewEnvironments
  | badNumeral (text : String)
  | longNumeral (digits : Nat)
  | integerTooLarge
  | badPayload (problems : List Payload.Problem)
  | unencodable (text : IllFormed)
  /-- An array, or else an object, lies too deep inside others. -/
  | tooDeep (isArray : Bool)
  /-- A field of a row that does not exist is asked for. -/
  | absentRow (field : String)
  -- addresses and the opening of databases
  | embeddedNull
  | badAddress
  | unknownDialect (name : String)
  | unknownExtension (name : String)
  | absentDriver (name : String)
  /-- A dialect of more than two parts. -/
  | dialectParts
  | hostInAddress (address : String)
  | badDecimal (text : String)
  | notTruth (text : String)
  /-- A parameter that is given several times and means one number. -/
  | severalDecimals
  | severalIntegers
  | integerTooWide
  | badIsolation
  /-- A locator without a path, and perhaps with parameters. -/
  | noPath (hasParameters : Bool)
  | unopenable
  | badAuthority (name : String)
  | noSuchMode (kind value : String)
  | modeNotAllowed (value : String)
  | noSuchFileSystem (name : String)
  /-- A complaint that cannot be shown. -/
  | undecodable (data : Bytes) (fault : Utf8.Fault)
  | diskFault
  | notDatabase
  /-- A change of a database that can only be read, by a statement if it is known, with its
  values. -/
  | readOnly (statement : Option String) (values : List String)
  deriving DecidableEq, Repr, Inhabited

namespace Error

/-- The kind of an error. -/
def kind : Error → ErrorKind
  | notBytes .. | emptyBytes _ | notInteger .. | negativeHeight .. | blankName _ | badHex _ =>
    .validation
  | unsupportedRuntime _ => .invalidRuntimeKind
  | nameTaken _ => .duplicateName
  | blockRecorded .. | heightRecorded _ => .duplicateBlock
  | entryTaken .. | mapEntryTaken .. => .conflict
  | contractDeployed .. => .duplicateContract
  | executionLogged .. => .duplicateExecution
  | variableDeclared .. => .duplicateVariable
  | mapDeclared .. => .duplicateMap
  | unknownEnvironment _ | unknownBlock _ | unknownContract _ | unknownVariable _ | unknownMap _
  | contractElsewhere .. | contractNotDeployed .. | blockElsewhere .. | executionElsewhere ..
  | executionOfOther .. | writerNotExecuted .. => .unknownReference
  | heightNotAdvancing .. => .heightOutOfOrder
  | noEnvironment _ | noEnvironmentNamed _ | noBlock _ | noBlockAtHeight .. | noBlockWithHash ..
  | noContract _ | noContractNamed .. | noVariable _ | noMap _ => .notFound
  | missingBlocks .. => .missingBlock
  | tooFewEnvironments | badNumeral _ | longNumeral _ | embeddedNull | dialectParts | badDecimal _
  | notTruth _ | badIsolation => .badValue
  | integerTooLarge | integerTooWide => .overflow
  | severalDecimals | severalIntegers | noPath _ => .form
  | badPayload _ => .badPayload
  | unencodable _ => .encoding
  | undecodable .. => .decoding
  | tooDeep _ => .recursion
  | absentRow _ => .absence
  | badAddress | hostInAddress _ => .address
  | unknownDialect _ | unknownExtension _ => .unknownModule
  | absentDriver _ => .absentModule
  | unopenable | badAuthority _ | noSuchMode .. | modeNotAllowed _ | noSuchFileSystem _ | diskFault
  | readOnly .. => .operational
  | notDatabase => .database

/-- The message about a hexadecimal text that cannot be read, given its literal. -/
def badHexLiteral (literal : String) : String := "Invalid hex string: " ++ literal

/-- How many characters of a literal a message shows. -/
def shownLiteral : Nat := 200

/-- An integer inside a message. -/
local instance : Coe Int String := ⟨Numeral.ofInt⟩

/-- Why bytes are no text. -/
def reasonText : Utf8.Reason → String
  | .badStart => "invalid start byte"
  | .badContinuation => "invalid continuation byte"
  | .earlyEnd => "unexpected end of data"

/-- A complaint about bytes that are no text. -/
def undecodableText (data : Bytes) (fault : Utf8.Fault) : String :=
  let bytes := (data.take fault.stop).drop fault.start
  let start := Numeral.ofInt fault.start
  "'utf-8' codec can't decode "
    ++ (if bytes.length = 1 then "byte 0x" ++ Hex.plain bytes ++ " in position " ++ start
      else "bytes in position " ++ start ++ "-" ++ Numeral.ofInt (fault.stop - 1))
    ++ ": " ++ reasonText fault.reason

/-- How many characters of a value a message shows, a half from each end. -/
def shownValue : Nat := 300

/-- A value in a message. -/
def abridged (literal : String) : String :=
  let cs := literal.toList
  if cs.length ≤ shownValue then literal
  else
    String.ofList (cs.take (shownValue / 2)) ++ " ... (" ++ Numeral.ofInt (cs.length - shownValue)
      ++ " characters truncated) ... " ++ String.ofList (cs.drop (cs.length - shownValue / 2))

/-- Values in brackets, as a message shows them. -/
def tuple : List String → String
  | [v] => "(" ++ v ++ ",)"
  | values => "(" ++ String.intercalate ", " values ++ ")"

/-- A complaint of the database: what it is about, the statement that caused it, and where more is
said. -/
def complaint (kind text : String) (statement : Option String) (values : List String)
    (topic : String) : String :=
  "(sqlite3." ++ kind ++ ") " ++ text
    ++ ((statement.map fun s => "\n[SQL: " ++ s ++ "]").getD "")
    ++ (if values = [] then "" else "\n[parameters: " ++ tuple (values.map abridged) ++ "]")
    ++ "\n(Background on this error at: https://sqlalche.me/e/21/" ++ topic ++ ")"

/-- A complaint about the operation of the database. -/
def failedOperation (text : String) : String := complaint "OperationalError" text none [] "e3q8"

/-- What is said in front of an unknown mode. -/
def noSuchModeText (kind : String) : String := "no such " ++ kind ++ " mode: "

/-- What is said in front of an unknown file system. -/
def noSuchFileSystemText : String := "no such vfs: "

/-- The complaint about bytes behind some words, which fails itself if the bytes are no text. -/
def about (words : String) (bytes : Bytes) (toError : String → Error) : Error :=
  let data := Utf8.encode words ++ bytes
  match Utf8.fault? data with
  | some fault => .undecodable data fault
  | none => toError (Utf8.decodeLossy bytes)

/-- The message of an error. -/
def message : Error → String
  | notBytes field form => field ++ " must be bytes, got " ++ form
  | emptyBytes field => field ++ " must not be empty"
  | notInteger field form => field ++ " must be an integer, got " ++ form
  | negativeHeight field height => field ++ " must not be negative, got " ++ height
  | blankName field => field ++ " must be a non-empty string"
  | badHex text => badHexLiteral (Quoted.text text)
  | unsupportedRuntime literal => "Invalid runtime kind: " ++ literal
  | nameTaken name => "Environment '" ++ name ++ "' already exists"
  | blockRecorded indexHash environment =>
    "Block " ++ Hex.plain indexHash ++ " already recorded for environment " ++ environment
  | heightRecorded height =>
    "Block at height " ++ height ++ " conflicts with a recorded block "
      ++ "(UNIQUE constraint failed: block.environment_id, block.height)"
  | entryTaken block keyHash =>
    "Block " ++ block ++ " already holds a value for key " ++ Hex.plain keyHash
  | contractDeployed qualifiedId environment =>
    "Contract '" ++ qualifiedId ++ "' already deployed in environment " ++ environment
  | executionLogged transactionId contract block =>
    "Transaction " ++ Hex.plain transactionId ++ " already executed contract " ++ contract
      ++ " at block " ++ block
  | variableDeclared contract key =>
    "Contract " ++ contract ++ " already declares variable '" ++ key ++ "'"
  | mapDeclared contract name =>
    "Contract " ++ contract ++ " already declares map '" ++ name ++ "'"
  | mapEntryTaken map keyHash block =>
    "Map " ++ map ++ " already holds key " ++ Hex.plain keyHash ++ " at block " ++ block
  | unknownEnvironment id => "Environment " ++ id ++ " does not exist"
  | unknownBlock id => "Block " ++ id ++ " does not exist"
  | unknownContract id => "Contract " ++ id ++ " does not exist"
  | unknownVariable id => "Variable " ++ id ++ " does not exist"
  | unknownMap id => "Map " ++ id ++ " does not exist"
  | contractElsewhere contract environment =>
    "Contract " ++ contract ++ " is not deployed in environment " ++ environment
  | contractNotDeployed qualifiedId environment =>
    "Contract '" ++ qualifiedId ++ "' is not deployed in environment '" ++ environment ++ "'"
  | blockElsewhere block environment =>
    "Block " ++ block ++ " does not belong to environment " ++ environment
  | executionElsewhere execution block =>
    "Execution " ++ execution ++ " was not logged at block " ++ block
  | executionOfOther execution contract owned =>
    "Execution " ++ execution ++ " invoked contract " ++ contract
      ++ ", not the owner of variable " ++ owned
  | writerNotExecuted key qualifiedId transactionId =>
    "Variable '" ++ key ++ "' of '" ++ qualifiedId ++ "' was written by transaction "
      ++ Hex.plain transactionId ++ ", which is not among the block's executions"
  | heightNotAdvancing environment height maxHeight =>
    "Height " ++ height ++ " does not advance environment " ++ environment
      ++ " (current max height " ++ maxHeight ++ ")"
  | noEnvironment id => "Environment " ++ id ++ " not found"
  | noEnvironmentNamed name => "Environment '" ++ name ++ "' not found"
  | noBlock id => "Block " ++ id ++ " not found"
  | noBlockAtHeight height environment =>
    "No block at height " ++ height ++ " for environment " ++ environment
  | noBlockWithHash indexHash environment =>
    "Block " ++ Hex.plain indexHash ++ " not found for environment " ++ environment
  | noContract id => "Contract " ++ id ++ " not found"
  | noContractNamed qualifiedId environment =>
    "Contract '" ++ qualifiedId ++ "' not found in environment " ++ environment
  | noVariable id => "Variable " ++ id ++ " not found"
  | noMap id => "Map " ++ id ++ " not found"
  | missingBlocks height environments =>
    "No block at height " ++ height ++ " for environment(s) "
      ++ String.intercalate ", " (environments.map Numeral.ofInt)
  | tooFewEnvironments => "compare_heights needs at least two distinct environments"
  | badNumeral text =>
    "invalid literal for int() with base 10: "
      ++ String.ofList ((Quoted.text text).toList.take shownLiteral)
  | longNumeral digits =>
    "Exceeds the limit (4300 digits) for integer string conversion: value has "
      ++ Numeral.ofInt digits ++ " digits; use sys.set_int_max_str_digits() to increase the limit"
  | integerTooLarge => "Python int too large to convert to SQLite INTEGER"
  | badPayload problems =>
    if problems.length = 1 then "1 validation error for BlockPayload"
    else Numeral.ofInt problems.length ++ " validation errors for BlockPayload"
  | unencodable text => text.complaint
  | tooDeep isArray =>
    "maximum recursion depth exceeded while decoding a JSON " ++ (if isArray then "array" else "object")
      ++ " from a unicode string"
  | absentRow field => "'NoneType' object has no attribute '" ++ field ++ "'"
  | embeddedNull => "embedded null byte"
  | badAddress => "Could not parse SQLAlchemy URL from given URL string"
  | unknownDialect name => "Can't load plugin: sqlalchemy.dialects:" ++ name
  | unknownExtension name => "Can't load plugin: sqlalchemy.plugins:" ++ name
  | absentDriver name => "No module named '" ++ name ++ "'"
  | dialectParts => "too many values to unpack (expected 2)"
  | hostInAddress address =>
    "Invalid SQLite URL: " ++ address ++ "\nValid SQLite URL forms are:\n"
      ++ " sqlite:///:memory: (or, sqlite://)\n sqlite:///relative/path/to/file.db\n"
      ++ " sqlite:////absolute/path/to/file.db"
  | badDecimal text => "could not convert string to float: " ++ Quoted.text text
  | notTruth text => "String is not true/false: " ++ Quoted.text text
  | severalDecimals => "float() argument must be a string or a real number, not 'tuple'"
  | severalIntegers =>
    "int() argument must be a string, a bytes-like object or a real number, not 'tuple'"
  | integerTooWide => "Python int too large to convert to C int"
  | badIsolation => "isolation_level string must be '', 'DEFERRED', 'IMMEDIATE', or 'EXCLUSIVE'"
  | noPath hasParameters =>
    if hasParameters then "unsupported operand type(s) for +=: 'NoneType' and 'str'"
    else "expected str, bytes or os.PathLike object, not NoneType"
  | undecodable data fault => undecodableText data fault
  | unopenable => failedOperation "unable to open database file"
  | badAuthority name => failedOperation ("invalid uri authority: " ++ name)
  | noSuchMode kind value => failedOperation (noSuchModeText kind ++ value)
  | modeNotAllowed value => failedOperation ("access mode not allowed: " ++ value)
  | noSuchFileSystem name => failedOperation (noSuchFileSystemText ++ name)
  | diskFault => failedOperation "disk I/O error"
  | notDatabase => complaint "DatabaseError" "file is not a database" none [] "4xp6"
  | readOnly statement values =>
    complaint "OperationalError" "attempt to write a readonly database" statement values "e3q8"

end Error

/-- Goes on only where a condition holds. -/
def ensure (p : Prop) [Decidable p] (e : Error) : Except Error Unit :=
  if p then .ok () else .error e

/-- Goes on with what was found. -/
def require {α : Type} (o : Option α) (e : Error) : Except Error α :=
  match o with
  | some a => .ok a
  | none => .error e

/-- A condition that is ensured passes if it holds. -/
@[simp] theorem ensure_eq_ok {p : Prop} [Decidable p] {e : Error} {u : Unit} :
    ensure p e = .ok u ↔ p := by
  unfold ensure; split <;> simp_all

/-- What is required is answered if it is there. -/
@[simp] theorem require_eq_ok {α : Type} {o : Option α} {e : Error} {a : α} :
    require o e = .ok a ↔ o = some a := by
  cases o <;> simp [require]

/-- What follows a step succeeds exactly if the step does and what follows it does. -/
@[simp] theorem bind_eq_ok {ε α β : Type} {x : Except ε α} {next : α → Except ε β} {b : β} :
    (x >>= next) = .ok b ↔ ∃ a, x = .ok a ∧ next a = .ok b := by
  cases x with
  | error e => simp [bind, Except.bind]
  | ok a => simp [bind, Except.bind]

end ReplayLedger
