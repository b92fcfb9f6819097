import Codewright.Workspace.FileSystem

/-!
# Changing a workspace

Writing a file makes the directories it needs; removing one that does not exist is no failure. What
was done before a failure stays done.
-/

namespace Codewright.Workspace.FileSystem

/-- Makes one directory; one that exists already will do. -/
def ensureDir (fs : FileSystem) (p : Path) : FileSystem × Option IoError :=
  match fs.makeDir p with
  | .ok fs => (fs, none)
  | .error e => (fs, if fs.isDir p then none else some e)

/-- Makes a directory and those above it, going up at most `depth` times. -/
def makeDirsFrom (fs : FileSystem) : Nat → Path → FileSystem × Option IoError
  | 0, p => if p.bytes = [] then (fs, none) else fs.ensureDir p
  | depth + 1, p =>
    if p.bytes = [] then (fs, none)
    else
      match fs.ensureDir p, p.parent? with
      | (fs, some .notFound), some parent =>
        match makeDirsFrom fs depth parent with
        | (fs, some e) => (fs, some e)
        | (fs, none) => fs.ensureDir p
      | done, _ => done

/-- Makes a directory and those above it. -/
def makeDirs (fs : FileSystem) (p : Path) : FileSystem × Option IoError :=
  makeDirsFrom fs (p.base.length + p.names.length) p

/-- A failed change: the path at which it failed, and why. -/
structure ChangeError where
  path : Path
  cause : IoError

/-- Makes the directory that a file is to lie in. -/
def makeParent (fs : FileSystem) (p : Path) : FileSystem × Option ChangeError :=
  match p.parent? with
  | none => (fs, none)
  | some dir =>
    let (fs, e) := fs.makeDirs dir
    (fs, e.map (⟨dir, ·⟩))

/-- Writes a file and makes the directories it needs. -/
def putFile (fs : FileSystem) (breakage? : Option Breakage) (p : Path) (content : ByteArray) :
    FileSystem × Except ChangeError Unit :=
  match fs.makeParent p with
  | (fs, some e) => (fs, .error e)
  | (fs, none) =>
    match fs.writeFile breakage? p content with
    | (fs, none) => (fs, .ok ())
    | (fs, some e) => (fs, .error ⟨p, e⟩)

/-- Removes a file, and tells whether there was one. -/
def dropFile (fs : FileSystem) (p : Path) : FileSystem × Except ChangeError Bool :=
  match fs.removeFile p with
  | .ok fs => (fs, .ok true)
  | .error .notFound => (fs, .ok false)
  | .error e => (fs, .error ⟨p, e⟩)

end Codewright.Workspace.FileSystem
