import ReplayLedger.Json
import ReplayLedger.Text.Capital
import ReplayLedger.Text.Small
import ReplayLedger.Value.Comparison

/-!
# Settings

A profile is chosen by a variable of the process environment: development, production or testing.
Other variables give the place of the database and whether statements are echoed.  Settings are
checked for values that cannot be right before a database is opened.
-/

namespace ReplayLedger

/-- The sets of settings to choose from. -/
inductive Profile where
  | development
  | production
  | testing
  deriving DecidableEq, Repr, Inhabited

namespace Profile

/-- The profile that a word stands for; any other word stands for development. -/
def ofText (s : String) : Profile :=
  let word := Text.smalls s
  if word = "production" then production
  else if word = "testing" then testing
  else development

/-- The name of the settings of a profile. -/
def name : Profile → String
  | development => "DevelopmentSettings"
  | production => "ProductionSettings"
  | testing => "TestingSettings"

end Profile

/-- The variables of the process environment that settings are read from. -/
structure Surroundings where
  profile : Option String := none
  databaseUrl : Option String := none
  echo : Option String := none
  logLevel : Option String := none
  deriving DecidableEq, Repr, Inhabited

/-- The settings that can be changed by hand. -/
inductive Setting where
  | framework
  | databaseUrl
  | echo
  | journalMode
  | synchronous
  | busyTimeout
  | foreignKeys
  | logLevel
  | logFormat
  deriving DecidableEq, Repr, Inhabited

namespace Setting

/-- All settings that can be changed by hand. -/
def all : List Setting :=
  [framework, databaseUrl, echo, journalMode, synchronous, busyTimeout, foreignKeys, logLevel, logFormat]

/-- The name of a setting. -/
def name : Setting → String
  | framework => "FRAMEWORK_NAME"
  | databaseUrl => "DATABASE_URL"
  | echo => "SQL_ECHO"
  | journalMode => "SQLITE_JOURNAL_MODE"
  | synchronous => "SQLITE_SYNCHRONOUS"
  | busyTimeout => "SQLITE_BUSY_TIMEOUT_MS"
  | foreignKeys => "SQLITE_FOREIGN_KEYS"
  | logLevel => "LOG_LEVEL"
  | logFormat => "LOG_FORMAT"

/-- The setting with a name. -/
def ofName? (name : String) : Option Setting := all.find? (·.name = name)

end Setting

/-- Where the store is kept and how it is opened.  Settings may be changed by hand, so all but the
profile are raw values. -/
structure Settings where
  profile : Profile
  framework : Value := .text "abledger"
  databaseUrl : Value
  echo : Value
  journalMode : Value := .text "WAL"
  synchronous : Value := .text "NORMAL"
  busyTimeout : Value := .int 5000
  foreignKeys : Value := .bool true
  logLevel : Value
  logFormat : Value := .text "%(asctime)s - %(name)s - %(levelname)s - %(message)s"
  deriving Repr, Inhabited

namespace Settings

/-- The database that is used when none is named. -/
def defaultUrl : String := "sqlite:///abledger.db"

/-- The settings that the surroundings call for.  Every profile fixes its own log level. -/
def ofSurroundings (env : Surroundings) : Settings :=
  let profile := Profile.ofText (env.profile.getD "development")
  let databaseUrl := .text (env.databaseUrl.getD defaultUrl)
  let echo := .bool (env.echo = some "1")
  match profile with
  | .development => { profile, databaseUrl, echo, logLevel := .text "DEBUG" }
  | .production =>
    { profile, databaseUrl, echo, logLevel := .text "WARNING", busyTimeout := .int 15000 }
  | .testing =>
    { profile, databaseUrl := .text "sqlite://", echo, logLevel := .text "DEBUG",
      journalMode := .text "MEMORY" }

/-- Gives one setting a new value. -/
def change (settings : Settings) (setting : Setting) (v : Value) : Settings :=
  match setting with
  | .framework => { settings with framework := v }
  | .databaseUrl => { settings with databaseUrl := v }
  | .echo => { settings with echo := v }
  | .journalMode => { settings with journalMode := v }
  | .synchronous => { settings with synchronous := v }
  | .busyTimeout => { settings with busyTimeout := v }
  | .foreignKeys => { settings with foreignKeys := v }
  | .logLevel => { settings with logLevel := v }
  | .logFormat => { settings with logFormat := v }

/-- Gives settings new values by their names; a name that no setting has changes nothing. -/
def changeAll (settings : Settings) (values : List (String × Value)) : Settings :=
  values.foldl (fun settings (name, v) =>
    match Setting.ofName? name with
    | some setting => settings.change setting v
    | none => settings) settings

/-- The journal modes of the database. -/
def journalModes : List String := ["DELETE", "TRUNCATE", "PERSIST", "MEMORY", "WAL", "OFF"]

/-- How hard the database tries to survive a loss of power. -/
def synchronousModes : List String := ["OFF", "NORMAL", "FULL", "EXTRA"]

/-- The names of log levels. -/
def logLevels : List String := ["DEBUG", "INFO", "WARNING", "ERROR", "CRITICAL"]

/-- Whether a text in capital letters is one of some keywords. -/
def isKeyword (keywords : List String) : Value → Except Misuse Bool
  | .text s => .ok (Text.capitals s ∈ keywords)
  | .illFormed _ => .ok false
  | v => .error (.noMember v.formName "upper")

/-- All that is wrong with settings. -/
def problems (settings : Settings) : Except Misuse (List String) := do
  let complain (wrong : Bool) (message : String) : List String := if wrong then [message] else []
  let timeout ← Value.precedes settings.busyTimeout (.int 0)
  let journal ← isKeyword journalModes settings.journalMode
  let synchronous ← isKeyword synchronousModes settings.synchronous
  let level ← isKeyword logLevels settings.logLevel
  return complain (!settings.databaseUrl.isTruthy) "DATABASE_URL must be set"
    ++ complain timeout "SQLITE_BUSY_TIMEOUT_MS must not be negative"
    ++ complain (!journal) "SQLITE_JOURNAL_MODE must be a valid SQLite journal mode"
    ++ complain (!synchronous) "SQLITE_SYNCHRONOUS must be one of: OFF, NORMAL, FULL, EXTRA"
    ++ complain (!level) "LOG_LEVEL must be a standard logging level name"

/-- How the database is opened, as a document. -/
def storageJson (settings : Settings) : Json :=
  .object [("database_url", .ofValue settings.databaseUrl), ("echo", .ofValue settings.echo),
    ("sqlite", .object [("journal_mode", .ofValue settings.journalMode),
      ("synchronous", .ofValue settings.synchronous),
      ("busy_timeout_ms", .ofValue settings.busyTimeout),
      ("foreign_keys", .ofValue settings.foreignKeys)])]

/-- Settings as a document, with all that is wrong with them. -/
def toJson (settings : Settings) : Except Misuse Json := do
  let problems ← settings.problems
  return .object [("class", .text settings.profile.name),
    ("framework", .ofValue settings.framework), ("log_level", .ofValue settings.logLevel),
    ("log_format", .ofValue settings.logFormat), ("storage", settings.storageJson),
    ("problems", .list .text problems)]

/-- Whether a word occurs somewhere in a text. -/
def occursIn (word : List Char) : List Char → Bool
  | [] => word.isEmpty
  | c :: rest => word.isPrefixOf (c :: rest) || occursIn word rest

/-- Whether a database is kept in memory only. -/
def isMemoryUrl (url : String) : Bool :=
  url = "sqlite://" || url = "sqlite:///:memory:" || occursIn "mode=memory".toList url.toList

end Settings

end ReplayLedger
