import ReplayLedger.Address
import ReplayLedger.Location

/-!
# From an address to the location of a database

The databases of this program have no host, so an address that names one is refused.  Some
parameters tell how a database is opened, and their values are checked before anything else is done.
The others are handed on with the name of the database, if that is a locator.
-/

namespace ReplayLedger.Address

/-- The dialects that are known, each with what it needs and cannot be had. -/
def dialects : List (String × Option String) :=
  [("sqlite", none), ("sqlite+pysqlite", none), ("sqlite+base", none),
    ("sqlite+aiosqlite", some "aiosqlite"), ("sqlite+pysqlcipher", some "pysqlcipher3"),
    ("postgresql", some "psycopg"), ("mysql", some "MySQLdb"), ("mariadb", some "MySQLdb"),
    ("oracle", some "oracledb"), ("mssql", some "pyodbc")]

/-- The name under which a dialect is looked for. -/
def moduleName (dialect : String) : String :=
  String.ofList (dialect.toList.map fun c => if c = '+' then '.' else c)

/-- Checks that the databases of a dialect can be reached. -/
def checkDialect (a : Address) : Except Error Unit := do
  ensure (a.dialect.toList.count '+' ≤ 1) .dialectParts
  let known := Association.get? a.dialect dialects
  if let some driver ← require known (.unknownDialect (moduleName a.dialect)) then
    throw (.absentDriver driver)

/-- The values of a parameter. -/
def values (a : Address) (name : String) : List String :=
  (Association.get? name a.parameters).getD []

/-- Checks that no extension is asked for: there is none. -/
def checkExtensions (a : Address) : Except Error Unit :=
  match a.values "plugin" with
  | [] => .ok ()
  | name :: _ => .error (.unknownExtension name)

/-- Whether a parameter is switched on.  Several values do, whatever they are. -/
def truth (a : Address) (name : String) : Except Error Bool :=
  match a.values name with
  | [] => .ok false
  | [value] => Quantity.truth value
  | _ => .ok true

/-- The decimal number that a parameter gives. -/
def decimal (a : Address) (name : String) : Except Error (Option Binary64) :=
  match a.values name with
  | [] => .ok none
  | [value] => some <$> Quantity.decimal value
  | _ => .error .severalDecimals

/-- The integer that a parameter gives. -/
def integer (a : Address) (name : String) : Except Error (Option Int) :=
  match a.values name with
  | [] => .ok none
  | [value] => some <$> Quantity.integer value
  | _ => .error .severalIntegers

/-- The parameters that tell how a database is opened. -/
def ownParameters : List String :=
  ["uri", "timeout", "isolation_level", "detect_types", "check_same_thread", "cached_statements"]

/-- The values of a parameter as they are handed on. -/
def handedOn : List String → String
  | [value] => value
  | values => Error.tuple (values.map Quoted.text)

/-- The parameters that are handed on, in the order of their names. -/
def furtherParameters (a : Address) : List String :=
  let names := (sortDistinct textLt (a.parameters.map (·.1))).filter (· ∉ ownParameters)
  names.map fun name => name ++ "=" ++ handedOn (a.values name)

/-- The name of the database with the parameters that are handed on; they need a name to follow. -/
def locatorName (a : Address) : Except Error (Option String) :=
  match a.database, a.furtherParameters with
  | database, [] => .ok database
  | none, _ => .error (.noPath true)
  | some name, parameters => .ok (some (name ++ "?" ++ String.intercalate "&" parameters))

/-- Whether an integer fits into 32 bits. -/
def IsNarrow (n : Int) : Prop := -0x80000000 ≤ n ∧ n < 0x80000000

instance (n : Int) : Decidable (IsNarrow n) := inferInstanceAs (Decidable (_ ∧ _))

/-- Checks that an integer fits into 32 bits. -/
def checkNarrow : Option Int → Except Error Unit
  | none => .ok ()
  | some n => ensure (IsNarrow n) .integerTooWide

/-- Where the database at an address is kept. -/
def location (a : Address) : Except Error Location := do
  ensure (a.namesHost = false) (.hostInAddress a.display)
  let mayBeLocator ← a.truth "uri"
  let _ ← a.decimal "timeout"
  let types ← a.integer "detect_types"
  let _ ← a.truth "check_same_thread"
  let statements ← a.integer "cached_statements"
  let name ← if mayBeLocator then a.locatorName else pure (some (a.database.getD ""))
  checkNarrow types
  ensure ((a.values "isolation_level").length ≤ 1) .badIsolation
  checkNarrow statements
  let name ← require name (.noPath false)
  ensure (name.toList.all (· ≠ '\x00')) .embeddedNull
  Location.ofName mayBeLocator name

/-- Where the database is kept that an address in text leads to. -/
def locate (address : String) : Except Error Location := do
  let a ← read address
  a.checkExtensions
  a.checkDialect
  a.location

end ReplayLedger.Address
