import Codewright.Digest.Base64
import Codewright.Digest.Sha256
import Codewright.Workspace.IoError

/-!
# Archives

An archive holds files by name, in a fixed order. In which format it is written is not decided here:
the program only packs files, and those who receive an archive unpack it.
-/

namespace Codewright.Workspace

/-- A format of archives. -/
structure ArchiveFormat where
  /-- Packs files. -/
  pack : (files : List (String × ByteArray)) → Except IoError ByteArray
  /-- The files in an archive, in their order. -/
  unpack : (archive : ByteArray) → Option (List (String × ByteArray))

/-- A format keeps some files: it only rejects them if two have the same name, and what it packs is
unpacked as it was. -/
structure ArchiveFormat.Keeps (format : ArchiveFormat) (files : List (String × ByteArray)) :
    Prop where
  packs_iff : (∃ archive, format.pack files = .ok archive) ↔ (files.map (·.1)).Nodup
  unpack_pack : ∀ archive, format.pack files = .ok archive → format.unpack archive = some files

/-- The digest by which the service checks what it has received. -/
def checksumOf (content : ByteArray) : String :=
  Digest.Base64.encode (Digest.Sha256.hash content)

example : checksumOf "abc".toUTF8 = "ungWv48Bz+pBQUDeXa4iI7ADYaOWF3qctBD/YfIAFa0=" := by
  decide +kernel

end Codewright.Workspace
