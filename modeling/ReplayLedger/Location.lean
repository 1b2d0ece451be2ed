import ReplayLedger.Association
import ReplayLedger.Error
import ReplayLedger.Text.Percent

/-!
# Locations of databases

A database lies in a file or in memory.  Its location is given by a name.  A name that starts with
`file:` may be a *locator*: a path, written with percent signs, and parameters that say how the file
is used.

    file://localhost/path?name=value&name=value#ignored
-/

namespace ReplayLedger

/-- How the file of a database is used. -/
structure Access where
  /-- Whether a file that is missing is made. -/
  makes : Bool := true
  /-- Whether the database is written. -/
  writes : Bool := true
  /-- Whether nobody changes the file, so that it needs no guarding. -/
  frozen : Bool := false
  /-- Whether the file is not shared with others.  Changes are logged beside a file only where it
  is. -/
  alone : Bool := false
  deriving DecidableEq, Repr, Inhabited

/-- Where a database is kept. -/
inductive Location where
  | memory (writes : Bool)
  | file (path : String) (access : Access)
  deriving DecidableEq, Repr, Inhabited

/-- What a locator says. -/
structure Locator where
  path : String
  parameters : List (String × Bytes) := []
  deriving DecidableEq, Repr, Inhabited

namespace Locator

/-- What locators start with. -/
def scheme : String := "file:"

/-- A part of a locator.  A null byte ends it. -/
def readPart (cs : List Char) : Bytes :=
  (Percent.decodeBytes (Utf8.encode (String.ofList cs))).takeWhile (· ≠ 0)

/-- A parameter of a locator.  One without a name counts for nothing. -/
def readParameter? (cs : List Char) : Option (String × Bytes) :=
  let (name, value) := cs.span (· ≠ '=')
  if readPart name = [] then none
  else some (Utf8.decodeLossy (readPart name), readPart (value.drop 1))

/-- What stands behind the machine that a locator may name, which must be this one. -/
def dropMachine : List Char → Except Error (List Char)
  | '/' :: '/' :: rest => do
    let (name, rest) := rest.span (· ≠ '/')
    let name := String.ofList name
    ensure (name = "" ∨ name = "localhost") (.badAuthority name)
    return rest
  | cs => .ok cs

/-- Reads what stands behind the start of a locator. -/
def read (cs : List Char) : Except Error Locator := do
  let cs := (← dropMachine cs).takeWhile (· ≠ '#')
  let (path, rest) := cs.span (· ≠ '?')
  return {
    path := Utf8.decodeLossy (readPart path)
    parameters := ((rest.drop 1).splitOn '&').filterMap readParameter? }

/-- The ways to use a file that a locator can ask for. -/
inductive Mode where
  | reading
  | writing
  | making
  /-- No file at all. -/
  | memory
  deriving DecidableEq, Repr, Inhabited

namespace Mode

/-- The modes with their names. -/
def names : List (String × Mode) :=
  [("ro", reading), ("rw", writing), ("rwc", making), ("memory", memory)]

/-- How much a mode asks for. -/
def demand : Mode → Nat
  | memory => 0
  | reading => 1
  | writing => 2
  | making => 3

/-- How much may be asked for later when a mode has been chosen. -/
def limit : Mode → Nat
  | memory => 4
  | mode => mode.demand

end Mode

/-- What the parameters of a locator ask for. -/
structure Request where
  mode : Mode := .making
  /-- The file system to be used. -/
  fileSystem : Option Bytes := none
  deriving DecidableEq, Repr, Inhabited

/-- Follows a parameter. -/
def Request.follow (request : Request) : String × Bytes → Except Error Request
  | ("vfs", name) => .ok { request with fileSystem := some name }
  | ("cache", value) => do
    ensure (value ∈ ["shared", "private"].map Utf8.encode) (unknownMode "cache" value)
    return request
  | ("mode", value) => do
    let named := Mode.names.find? fun (name, _) => Utf8.encode name = value
    let (name, mode) ← require named (unknownMode "access" value)
    ensure (mode.demand ≤ request.mode.limit) (.modeNotAllowed name)
    return { request with mode }
  | _ => .ok request
where
  /-- The complaint about an unknown mode. -/
  unknownMode (kind : String) (value : Bytes) : Error :=
    .about (Error.noSuchModeText kind) value (.noSuchMode kind)

/-- The ways to reach files. -/
inductive FileSystem where
  /-- Files are shared with others. -/
  | shared
  | unshared
  /-- Files are kept in memory. -/
  | memory
  deriving DecidableEq, Repr, Inhabited

/-- The file systems with their names. -/
def FileSystem.names : List (String × FileSystem) :=
  [("unix", shared), ("unix-excl", shared), ("unix-none", unshared), ("unix-dotfile", unshared),
    ("memdb", memory)]

/-- The file system that is asked for. -/
def Request.findFileSystem (request : Request) : Except Error FileSystem :=
  match request.fileSystem with
  | none => .ok .shared
  | some value => do
    let named := FileSystem.names.find? fun (name, _) => Utf8.encode name = value
    let (_, system) ← require named (.about Error.noSuchFileSystemText value .noSuchFileSystem)
    return system

/-- Whether the value of a parameter switches it on: a word, or a number whose lowest byte is not
zero. -/
def isOn (value : Bytes) : Bool :=
  let cs := Utf8.decodeChars value
  match Numeral.magnitude? Numeral.asciiValue? (cs.takeWhile Char.isDigit) with
  | some n => n % 256 ≠ 0
  | none => String.ofList (cs.map Char.toLower) ∈ ["on", "yes", "true"]

/-- The path that means memory. -/
def memoryPath : String := ":memory:"

/-- The location that a locator stands for. -/
def location (locator : Locator) : Except Error Location := do
  let request ← locator.parameters.foldlM Request.follow {}
  let system ← request.findFileSystem
  let switched (name : String) : Bool := (Association.get? name locator.parameters).any isOn
  let writes : Bool := request.mode ≠ .reading
  if request.mode = .memory ∨ system = .memory ∨ locator.path ∈ ["", memoryPath] then
    return .memory writes
  return .file locator.path {
    makes := request.mode = .making, writes
    frozen := switched "immutable"
    alone := system = .unshared || switched "nolock" }

end Locator

/-- The location that a name stands for; it is only taken for a locator if that is asked for. -/
def Location.ofName (mayBeLocator : Bool) (name : String) : Except Error Location :=
  let cs := name.toList
  if mayBeLocator ∧ Locator.scheme.toList.isPrefixOf cs then do
    (← Locator.read (cs.drop Locator.scheme.length)).location
  else if name ∈ ["", Locator.memoryPath] then .ok (.memory true)
  else .ok (.file name {})

end ReplayLedger
