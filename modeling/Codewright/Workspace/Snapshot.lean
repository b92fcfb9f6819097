import Codewright.Session.Error
import Codewright.Workspace.Archive
import Codewright.Workspace.Listing

/-!
# Snapshots

A snapshot is an archive of the files of a workspace, as long as they are not too large together.
-/

namespace Codewright.Workspace

/-- An archive of a workspace, with the size and number of its files. -/
structure Snapshot where
  archive : ByteArray
  totalBytes : Nat
  fileCount : Nat

namespace Snapshot

/-- The checksum of the archive. -/
def checksum (s : Snapshot) : String :=
  checksumOf s.archive

/-- Packs the files of a workspace. -/
def take (format : ArchiveFormat) (fs : FileSystem) (root : Path) (maxSizeBytes : Nat) :
    Except Session.Error Snapshot :=
  match WorkspaceFile.list fs root true with
  | .error e => .error (.prepareRepoFailed e)
  | .ok files =>
    let total := WorkspaceFile.totalSize files
    if maxSizeBytes < total then .error (.contentLength total maxSizeBytes)
    else
      match format.pack (files.map fun f => (f.relativePath, f.content)) with
      | .error e => .error (.prepareRepoFailed e)
      | .ok archive => .ok ⟨archive, total, files.length⟩

end Snapshot

end Codewright.Workspace
