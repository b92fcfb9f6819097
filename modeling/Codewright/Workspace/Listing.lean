import Codewright.Workspace.IgnoreRules

/-!
# The files of a workspace

Lists the regular files below a directory, depth first and in the order of their names. Links are
not followed, except that the directory itself may be one.
-/

namespace Codewright.Workspace

/-- A file of a workspace: its path relative to the workspace, its full path and its content. -/
structure WorkspaceFile where
  relativePath : String
  path : Path
  content : ByteArray

namespace WorkspaceFile

/-- The number of bytes in files. -/
def totalSize (files : List WorkspaceFile) : Nat :=
  files.foldr (fun f n => f.content.size + n) 0

/-- A relative path as text. -/
def relativeText (names : List Name) : String :=
  String.intercalate "/" (names.map Text.lossy)

/-- The order of names, byte by byte. -/
def nameLe : Name → Name → Bool
  | [], _ => true
  | _ :: _, [] => false
  | a :: as, b :: bs => if a = b then nameLe as bs else a < b

/-- A failure to go through a directory. -/
def walkFailure (p : Path) (cause : IoError) : IoError :=
  .other ("IO error for operation on " ++ p.display ++ ": " ++ cause.message)

/-- A directory below the root: the path that leads to it, also as bytes, the names on the way from
the root, and what lies below it by the names that lead there. -/
structure Folder where
  path : Path
  bytes : List UInt8
  names : List Name
  tree : List (Location × Entry)

namespace Folder

/-- The entries of a directory in the order of their names. -/
def entries (f : Folder) : List (Name × Entry) :=
  let own := f.tree.filterMap fun
    | ([name], e) => some (name, e)
    | _ => none
  own.mergeSort fun a b => nameLe a.1 b.1

/-- The directory of this name. -/
def child (f : Folder) (name : Name) : Folder where
  path := f.path.child name
  bytes := Path.joinName f.bytes name
  names := f.names ++ [name]
  tree := f.tree.filterMap fun
    | (first :: second :: rest, e) => if first = name then some (second :: rest, e) else none
    | _ => none

end Folder

/-- The files in a directory that is at most `depth` deep, as far as the rules let them through. -/
def listBelow (fs : FileSystem) (useRules : Bool) :
    (depth : Nat) → Folder → IgnoreChain → Except IoError (List WorkspaceFile)
  | 0, f, _ => .error (walkFailure f.path .tooManyLinks)
  | depth + 1, f, chain =>
    let entries := f.entries
    let chain :=
      if useRules then chain.descend (.load fs f.path fun name => entries.lookup name) else chain
    let listEntry (entry : Name × Entry) : Except IoError (List WorkspaceFile) :=
      let bytes := Path.joinName f.bytes entry.1
      match entry.2 with
      | .link _ => .ok []
      | .file content =>
        if chain.skips bytes entry.1 false then .ok []
        else if pathLengthLimit ≤ bytes.length then .error .nameTooLong
        else .ok [⟨relativeText (f.names ++ [entry.1]), f.path.child entry.1, content⟩]
      | .dir =>
        if chain.skips bytes entry.1 true then .ok []
        else listBelow fs useRules depth (f.child entry.1) chain
    if pathLengthLimit ≤ f.bytes.length then .error (walkFailure f.path .nameTooLong)
    else (entries.mapM listEntry).map List.flatten

/-- The rules of the directories above a location, nearest first. -/
def rulesAbove (fs : FileSystem) (loc : Location) : List IgnoreFiles :=
  (List.range loc.length).reverse.map fun depth =>
    let dir := loc.take depth
    .load fs ⟨[slash], dir⟩ fun name => fs.get? (dir ++ [name])

/-- Whether a path stands for the standard input, which is no directory. -/
def isDash (p : Path) : Bool :=
  Path.baseNames p.base = [[0x2D]] && p.names.isEmpty

/-- The files below a root directory. A root that is a file or a link to one has none. With
`useRules` the ignore files in the tree and above it apply; in those above it nothing may be
wrong. -/
def list (fs : FileSystem) (root : Path) (useRules : Bool) : Except IoError (List WorkspaceFile) :=
  if isDash root then .ok []
  else
    match fs.find .target root with
    | .error e => .error (walkFailure root e)
    | .ok (loc, .dir) =>
      let above := if useRules then rulesAbove fs loc else []
      if above.any (·.hasFault) then .error (.other "invalid ignore file")
      else
        let folder : Folder :=
          { path := root, bytes := root.bytes, names := [], tree := fs.below loc }
        listBelow fs useRules (fs.entries.size + 1) folder
          { root := root.bytes
            base := slash :: Path.joinNames loc
            above := above.filter (!·.isEmpty) }
    | .ok _ => .ok []

end WorkspaceFile

end Codewright.Workspace
