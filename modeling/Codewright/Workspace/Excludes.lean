import Codewright.Workspace.FileSystem

/-!
# The excludes of a repository

The directory of a repository holds, in `info/exclude`, rules that belong to no version. It is
called `.git`; if that is a file, the file names a directory in which, in turn, the file
`commondir` names the directory of the repository.
-/

namespace Codewright.Workspace.Excludes

/-- The first line of a file that has one; an error if it is not text. -/
def firstLine? (content : List UInt8) : Except Unit (Option (List UInt8)) :=
  let line := content.takeWhile (· ≠ 0x0A)
  if content = [] then .ok none
  else if (Text.symbols line).any Option.isNone then .error ()
  else if line.length < content.length ∧ line.getLast? = some 0x0D then .ok (some line.dropLast)
  else .ok (some line)

/-- The path that a line gives: one that starts with a full stop is relative to `dir`. -/
def pathOf (dir line : List UInt8) : Path :=
  if line.head? = some 0x2E then ⟨Path.joinName dir line, []⟩ else ⟨line, []⟩

/-- The directory that a file `.git` with this content names, if it names one. -/
def named? (content : List UInt8) : Except Unit (Option (List UInt8)) :=
  (firstLine? content).map (·.bind (Text.bytes "gitdir: ").isPrefixOf?)

/-- The file in a directory that says where the repository is. -/
def pointer (dir : List UInt8) : Path :=
  ⟨dir, [Text.bytes "commondir"]⟩

/-- The directory of the repository that a file `.git` with this content leads to, if it leads to
one. It is an error if a line that should name it cannot be read. -/
def directory? (fs : FileSystem) (content : List UInt8) : Except Unit (Option Path) :=
  match named? content with
  | .error () => .error ()
  | .ok none => .ok none
  | .ok (some dir) =>
    match fs.readFile (pointer dir) with
    | .error .isADirectory => .error ()
    | .error _ => .ok none
    | .ok content => (firstLine? content.toList).map (·.map (pathOf dir))

/-- The file with the excludes in the directory of a repository. -/
def below (repository : Path) : Path :=
  (repository.child (Text.bytes "info")).child (Text.bytes "exclude")

/-- The file with the excludes for a directory, given the path of its `.git` and what is there. -/
def file? (fs : FileSystem) (git : Path) (e : Entry) : Except Unit (Option Path) :=
  let repository : Except Unit (Option Path) :=
    match e with
    | .dir => .ok (some git)
    | .file content => directory? fs content.toList
    | .link _ =>
      match fs.find .target git with
      | .ok (_, .file content) => directory? fs content.toList
      | _ => .ok (some git)
  repository.map (·.map below)

end Codewright.Workspace.Excludes
