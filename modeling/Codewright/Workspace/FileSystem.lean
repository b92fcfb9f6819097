import Codewright.Workspace.IoError
import Codewright.Workspace.Path
import Std.Data.ExtTreeMap

/-!
# The file system

A tree of directories, files and symbolic links, held as a map from locations to entries. A location
is the row of names from the root directory down to an entry, without links on the way. Two file
systems with the same entries are equal. Paths are resolved to locations name by name: links are
followed, `..` goes up, and the length of a path and of each name is limited.
-/

namespace Codewright.Workspace

/-- What there is at a location. -/
inductive Entry where
  | file (content : ByteArray)
  | dir
  | link (target : List UInt8)

/-- The names from the root directory down. -/
abbrev Location := List Name

/-- The entries by location. The root directory is not among them. -/
structure FileSystem where
  entries : Std.ExtTreeMap Location Entry := ∅
  /-- Where relative paths start. -/
  workingDirectory : Location := []

/-- The longest name a file can have. -/
def maxNameLength : Nat := 255

/-- The length from which on a path is not accepted. -/
def pathLengthLimit : Nat := 4096

/-- The number of links that are followed on the way to one entry. -/
def maxLinks : Nat := 40

/-- Why a write breaks off that has begun. -/
structure Breakage where
  /-- The number of bytes that have been written until then. -/
  written : Nat
  cause : IoError

/-- What of a content there is in a file after it has been written, perhaps not to its end. -/
def arrived (breakage? : Option Breakage) (content : ByteArray) : ByteArray :=
  match breakage? with
  | none => content
  | some b => content.extract 0 b.written

/-- What a path is followed for. -/
inductive Aim where
  /-- The entry of that name, even if it is a link. -/
  | entry
  /-- What the name leads to. -/
  | target
  /-- A file to be written where the name leads to; a slash behind its name asks for a directory. -/
  | newFile
  deriving DecidableEq, Repr

namespace FileSystem

/-- The file system with these entries, besides the root directory. -/
def ofList (workingDirectory : Location) (entries : List (Location × Entry)) : FileSystem where
  entries := .ofList (entries.filter (·.1 ≠ []))
  workingDirectory := workingDirectory

/-- The entries in the order of their locations. -/
def toList (fs : FileSystem) : List (Location × Entry) :=
  fs.entries.toList

/-- What there is at a location. -/
def get? (fs : FileSystem) (loc : Location) : Option Entry :=
  if loc = [] then some .dir else fs.entries[loc]?

/-- Puts an entry at a location, in place of what was there. -/
def set (fs : FileSystem) (loc : Location) (e : Entry) : FileSystem :=
  { fs with entries := fs.entries.insert loc e }

/-- Removes the entry at a location. -/
def erase (fs : FileSystem) (loc : Location) : FileSystem :=
  { fs with entries := fs.entries.erase loc }

/-- Whether there is a directory at a location. -/
def isDirAt (fs : FileSystem) (loc : Location) : Bool :=
  match fs.get? loc with
  | some .dir => true
  | _ => false

/-- Follows names from a directory. The last name need not exist. -/
def walk (fs : FileSystem) (aim : Aim) (links : Nat) (dir : Location) :
    List Name → Except IoError Location
  | [] => .ok dir
  | name :: rest =>
    if name = [] ∨ name = Path.here then walk fs aim links dir rest
    else if name = Path.up then walk fs aim links dir.dropLast rest
    else if aim = .newFile ∧ rest ≠ [] ∧ rest.all (· = []) then .error .isADirectory
    else if maxNameLength < name.length then .error .nameTooLong
    else
      match fs.get? (dir ++ [name]) with
      | some .dir => walk fs aim links (dir ++ [name]) rest
      | some (.link target) =>
        if rest = [] ∧ aim = .entry then .ok (dir ++ [name])
        else
          match links with
          | 0 => .error .tooManyLinks
          | links + 1 =>
            match Path.splitNames target with
            | [] :: names => walk fs aim links [] (names ++ rest)
            | names => walk fs aim links dir (names ++ rest)
      | some (.file _) => if rest = [] then .ok (dir ++ [name]) else .error .notADirectory
      | none => if rest = [] then .ok (dir ++ [name]) else .error .notFound
termination_by names => (links, names.length)

/-- The location a path leads to, where there may be nothing as yet. -/
def locate (fs : FileSystem) (aim : Aim) (p : Path) : Except IoError Location :=
  let bytes := p.bytes
  if bytes.contains 0 then .error .nulInName
  else if bytes = [] then .error .notFound
  else if pathLengthLimit ≤ bytes.length then .error .nameTooLong
  else
    let base := if p.base = [] then [] else Path.splitNames p.base
    match base with
    | [] :: names => walk fs aim maxLinks [] (names ++ p.names)
    | names =>
      if fs.isDirAt fs.workingDirectory then
        walk fs aim maxLinks fs.workingDirectory (names ++ p.names)
      else .error .notFound

/-- The location of an existing entry. -/
def find (fs : FileSystem) (aim : Aim) (p : Path) : Except IoError (Location × Entry) :=
  match fs.locate aim p with
  | .error e => .error e
  | .ok loc =>
    match fs.get? loc with
    | none => .error .notFound
    | some e => .ok (loc, e)

/-- Whether a path leads to a directory. -/
def isDir (fs : FileSystem) (p : Path) : Bool :=
  match fs.find .target p with
  | .ok (_, .dir) => true
  | _ => false

/-- The content of a file. -/
def readFile (fs : FileSystem) (p : Path) : Except IoError ByteArray :=
  match fs.find .target p with
  | .error e => .error e
  | .ok (_, .file content) => .ok content
  | .ok (_, .dir) => .error .isADirectory
  | .ok (_, .link _) => .error .tooManyLinks

/-- The content of an entry that is known to lie at a path. -/
def readEntry (fs : FileSystem) (p : Path) : Entry → Except IoError ByteArray
  | .file content => if pathLengthLimit ≤ p.bytes.length then .error .nameTooLong else .ok content
  | .dir => .error .isADirectory
  | .link _ => fs.readFile p

/-- The entries below a directory, by the names that lead to them from there. -/
def below (fs : FileSystem) (dir : Location) : List (Location × Entry) :=
  fs.toList.filterMap fun (loc, e) => (dir.isPrefixOf? loc).map (·, e)

/-- Makes a directory, whose parent has to exist. -/
def makeDir (fs : FileSystem) (p : Path) : Except IoError FileSystem :=
  match fs.locate .entry p with
  | .error e => .error e
  | .ok loc =>
    if (fs.get? loc).isSome then .error .alreadyExists else .ok (fs.set loc .dir)

/-- Puts a content into a file, which need not exist, in place of what is in it. -/
def fillFile (fs : FileSystem) (p : Path) (content : ByteArray) : Except IoError FileSystem :=
  match fs.locate .newFile p with
  | .error e => .error e
  | .ok loc =>
    match fs.get? loc with
    | some .dir => .error .isADirectory
    | _ => .ok (fs.set loc (.file content))

/-- Writes a file, which need not exist. It is emptied before anything is written to it, so that a
write that breaks off leaves the beginning of the content in it. -/
def writeFile (fs : FileSystem) (breakage? : Option Breakage) (p : Path) (content : ByteArray) :
    FileSystem × Option IoError :=
  match fs.fillFile p (arrived breakage? content) with
  | .error e => (fs, some e)
  | .ok fs => (fs, breakage?.map (·.cause))

/-- Removes a file or link. -/
def removeFile (fs : FileSystem) (p : Path) : Except IoError FileSystem :=
  match fs.find .entry p with
  | .error e => .error e
  | .ok (_, .dir) => .error .isADirectory
  | .ok (loc, _) => .ok (fs.erase loc)

end FileSystem

end Codewright.Workspace
