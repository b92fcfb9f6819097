import Codewright.Service.Message
import Codewright.Text.Blank

/-!
# Staged files

Generated files are kept in memory until the user accepts them. Each round of code generation has
an upload id, and its files live below that id, so that a later round leaves the earlier ones as
they are.
-/

namespace Codewright.Staging

/-- The scheme of the addresses of staged files. -/
def scheme : String := "weaverbird"

/-- The address of a staged file. -/
structure Uri where
  path : String
  deriving DecidableEq, Repr, Inhabited

namespace Uri

/-- The address of a file of one round; slashes at the start of its path do not count. -/
def ofFile (uploadId filePath : String) : Uri where
  path := uploadId ++ "/" ++ String.ofList (filePath.toList.dropWhile (· = '/'))

/-- The address as text. -/
def toText (u : Uri) : String :=
  scheme ++ ":" ++ u.path

/-- A URI is written as its text. -/
def toJson (u : Uri) : Json :=
  .record [("path", .text u.path)]

end Uri

/-- A generated file that has been staged. -/
structure StagedFile where
  path : String
  content : String
  uri : Uri
  deriving DecidableEq, Repr, Inhabited

/-- The written form of a staged file. -/
def StagedFile.toJson (f : StagedFile) : Json :=
  .record [("filePath", .text f.path), ("fileContent", .text f.content),
    ("virtualUri", f.uri.toJson)]

/-- A generated file as it is staged under an upload id. -/
def StagedFile.ofGenerated (uploadId : String) (f : Service.GeneratedFile) : StagedFile :=
  ⟨f.path, f.content, .ofFile uploadId f.path⟩

/-- The contents of the staged files by address, in increasing order of the paths. -/
structure Store where
  files : List (Uri × ByteArray)

namespace Store

/-- No file is staged. -/
def empty : Store := ⟨[]⟩

/-- Enters a file at its place in the order, in place of one with the same address. -/
def insertInto (u : Uri) (content : ByteArray) : List (Uri × ByteArray) → List (Uri × ByteArray)
  | [] => [(u, content)]
  | (v, old) :: rest =>
    if u = v then (u, content) :: rest
    else if u.path < v.path then (u, content) :: (v, old) :: rest
    else (v, old) :: insertInto u content rest

/-- Stages a file. -/
def register (s : Store) (u : Uri) (content : ByteArray) : Store :=
  ⟨insertInto u content s.files⟩

/-- The content of the file at an address. -/
def read (s : Store) (u : Uri) : Option ByteArray :=
  s.files.lookup u

/-- The number of staged files. -/
def size (s : Store) : Nat :=
  s.files.length

/-- The paths of the staged files, in increasing order. -/
def paths (s : Store) : List String :=
  s.files.map (·.1.path)

/-- Stages a file that was described before. -/
def registerStaged (s : Store) (f : StagedFile) : Store :=
  s.register f.uri f.content.toUTF8

/-- Stages the files of a round, one after the other. -/
def registerAll (s : Store) (files : List StagedFile) : Store :=
  files.foldl registerStaged s

end Store

end Codewright.Staging
