/-!
# Paths

A path is a row of parts with slashes between them.  Its *route* is the shortest way to the same
place: up from the working folder, or from the root, and then down.  A file is found by following
its path part by part, so every folder on the way must exist.  A database is kept at the route of
its path, whether or not the folders that the path only passes through exist.
-/

namespace ReplayLedger

namespace Path

/-- The parts of a path. -/
def parts (path : String) : List String :=
  (path.toList.splitOn '/').map String.ofList

/-- Whether a path starts at the root. -/
def isAbsolute (path : String) : Bool := path.toList.head? = some '/'

end Path

/-- The shortest way to a place. -/
structure Route where
  /-- Whether the way starts at the root. -/
  absolute : Bool := false
  /-- How many folders the way goes up from the working folder. -/
  above : Nat := 0
  /-- The names on the way down, the last one first. -/
  names : List String := []
  deriving DecidableEq, Repr, Inhabited

namespace Route

/-- Goes on by one part of a path; above the root there is nothing. -/
def follow (route : Route) (part : String) : Route :=
  if part = "" ∨ part = "." then route
  else if part = ".." then
    match route.names with
    | _ :: names => { route with names }
    | [] => if route.absolute then route else { route with above := route.above + 1 }
  else { route with names := part :: route.names }

/-- Where a path starts. -/
def start (path : String) : Route := { absolute := Path.isAbsolute path }

/-- The route of a path. -/
def ofPath (path : String) : Route := (Path.parts path).foldl follow (start path)

/-- The folder around a place. -/
def parent (route : Route) : Route := { route with names := route.names.tail }

end Route

/-- The files that a program can see, by their paths. -/
abbrev Files := List (String × String)

namespace Path

/-- The longest name of a file, in bytes. -/
def maxName : Nat := 255

/-- The longest name of a database, in bytes: beside it there is a file whose name is longer by
eight. -/
def maxDatabaseName : Nat := maxName - 8

/-- The longest path, in bytes. -/
def maxPath : Nat := 4095

/-- Why a path leads to no file. -/
inductive Fault where
  | missing
  | isFolder
  | notFolder
  | tooLong
  /-- A path with a null character is never followed. -/
  | embeddedNull
  deriving DecidableEq, Repr, Inhabited

/-- The wording of a fault. -/
def Fault.message : Fault → String
  | missing => "No such file or directory"
  | isFolder => "Is a directory"
  | notFolder => "Not a directory"
  | tooLong => "File name too long"
  | embeddedNull => "embedded null byte"

/-- Folders that every system has. -/
def commonFolders : List String :=
  ["bin", "dev", "etc", "home", "lib", "opt", "proc", "root", "sys", "tmp", "usr", "var"]

/-- Those of them in which no file can be made. -/
def closedFolders : List String := ["proc", "sys"]

/-- The file that is always empty. -/
def emptyFile : Route := ⟨true, 0, ["null", "dev"]⟩

end Path

namespace Files

/-- The text of the file at a route. -/
def textAt? (files : Files) (route : Route) : Option String :=
  if route = Path.emptyFile then some ""
  else (files.find? fun (path, _) => Route.ofPath path = route).map (·.2)

/-- Whether there is a folder at a route: one that every system has, or one that holds a file. -/
def hasFolder (files : Files) (route : Route) : Bool :=
  match route.absolute, route.names with
  | _, [] => true
  | true, [name] => name ∈ Path.commonFolders
  | absolute, names => files.any fun (path, _) =>
    let file := Route.ofPath path
    file.absolute = absolute && file.above = route.above && names.isSuffixOf file.names.tail

/-- Whether a route leads into a folder in which no file can be made. -/
def leadsAstray (route : Route) : Bool :=
  route.absolute && route.names.getLast?.any (· ∈ Path.closedFolders)

/-- Whether a database can be kept at a route. -/
def canHold (files : Files) (route : Route) : Bool :=
  match route.names with
  | [] => false
  | name :: _ =>
    name.utf8ByteSize ≤ Path.maxDatabaseName && files.hasFolder route.parent
      && !files.hasFolder route && !leadsAstray route

/-- Follows one part of a path from a place. -/
def follow (files : Files) (route : Route) (part : String) : Except Path.Fault Route :=
  if !files.hasFolder route then .error .notFolder
  else if Path.maxName < part.utf8ByteSize then .error .tooLong
  else
    let next := route.follow part
    if files.hasFolder next || (files.textAt? next).isSome then .ok next else .error .missing

/-- The text of the file that a path leads to. -/
def read (files : Files) (path : String) : Except Path.Fault String := do
  if '\x00' ∈ path.toList then throw .embeddedNull
  if path = "" then throw .missing
  if Path.maxPath < path.utf8ByteSize then throw .tooLong
  let route ← (Path.parts path).foldlM files.follow (Route.start path)
  match files.textAt? route with
  | some text => return text
  | none => throw .isFolder

end Files

end ReplayLedger
