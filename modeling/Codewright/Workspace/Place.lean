import Codewright.Workspace.Path

/-!
# Places in a workspace

The service names files by text. A text is read step by step; it leads to a path below the
workspace root, or nowhere if it could leave the workspace or names no file.
-/

namespace Codewright.Workspace

/-- A step of a path given as text. -/
inductive PathStep where
  /-- To the root directory. -/
  | root
  /-- To where one is. -/
  | here
  /-- To the directory above. -/
  | up
  /-- Into the entry of this name. -/
  | into (name : Name)
  deriving DecidableEq, Repr

namespace PathStep

/-- The step that a name behind the first one stands for, if it stands for any. -/
def ofName? (name : Name) : Option PathStep :=
  if name = [] || name = Path.here then none
  else if name = Path.up then some up
  else some (into name)

/-- The steps of a path: a slash at its start leads to the root directory, and a dot counts only
there. -/
def ofText (text : List UInt8) : List PathStep :=
  match Path.splitNames text with
  | [] => []
  | [name] => (if name = Path.here then some here else ofName? name).toList
  | name :: rest =>
    (if name = [] then some root else if name = Path.here then some here else ofName? name).toList
      ++ rest.filterMap ofName?

end PathStep

namespace Path

/-- Follows steps from a path below a root; none may lead up. -/
def follow? (p : Path) : List PathStep → Option Path
  | [] => some p
  | .root :: rest => follow? p rest
  | .here :: rest => follow? p rest
  | .up :: _ => none
  | .into name :: rest => follow? (p.child name) rest

/-- The path of a file that the service names, below a root. -/
def inWorkspace? (root : Path) (relative : String) : Option Path :=
  match follow? root (PathStep.ofText (Text.bytes relative)) with
  | none => none
  | some p => if p.names.length = root.names.length then none else some p

end Path

end Codewright.Workspace
