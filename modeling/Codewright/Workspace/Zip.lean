import Codewright.Digest.Crc32
import Codewright.Text.Utf8
import Codewright.Workspace.Archive

/-!
# The zip format

An archive has each file behind a header of its own, then a directory of all files, then its end
record, which tells how many there are. The files are stored as they are. What the fields of the
format can not hold is rejected.
-/

namespace Codewright.Workspace.Zip

/-! ## Writing -/

/-- A number in so many bytes, lowest first. -/
def number : (width : Nat) → Nat → List UInt8
  | 0, _ => []
  | width + 1, n => UInt8.ofNat n :: number width (n / 0x100)

/-- The fields that a file's header and its entry in the directory have in common: version, name
encoding, method, date, checksum, sizes and length of the name. -/
def commonFields (name : String) (content : ByteArray) : List UInt8 :=
  number 2 20 ++ number 2 0x800 ++ number 2 0 ++ number 2 0 ++ number 2 0x21
    ++ number 4 (Digest.Crc32.checksum content).toNat ++ number 4 content.size
    ++ number 4 content.size ++ number 2 (Text.bytes name).length ++ number 2 0

/-- What every header of a file starts with. -/
def fileMark : List UInt8 := [0x50, 0x4B, 3, 4]

/-- What every entry of the directory starts with. -/
def entryMark : List UInt8 := [0x50, 0x4B, 1, 2]

/-- What the end record starts with. -/
def endMark : List UInt8 := [0x50, 0x4B, 5, 6]

/-- The header before a file. -/
def header (name : String) (content : ByteArray) : List UInt8 :=
  fileMark ++ commonFields name content ++ Text.bytes name

/-- The entry for a file whose header starts at `offset`. -/
def directoryEntry (offset : Nat) (name : String) (content : ByteArray) : List UInt8 :=
  entryMark ++ number 2 0x314 ++ commonFields name content ++ number 2 0 ++ number 2 0
    ++ number 2 0 ++ number 4 0x81A40000 ++ number 4 offset ++ Text.bytes name

/-- The end record of an archive of `count` files. -/
def endRecord (count size offset : Nat) : List UInt8 :=
  endMark ++ number 2 0 ++ number 2 0 ++ number 2 count ++ number 2 count ++ number 4 size
    ++ number 4 offset ++ number 2 0

/-- Appends a file to the files and directory entries written so far. -/
def append (written : ByteArray × List UInt8) (file : String × ByteArray) :
    ByteArray × List UInt8 :=
  (written.1 ++ ⟨(header file.1 file.2).toArray⟩ ++ file.2,
    written.2 ++ directoryEntry written.1.size file.1 file.2)

/-- The archive of some files. -/
def write (files : List (String × ByteArray)) : ByteArray :=
  let (contents, directory) := files.foldl append (ByteArray.empty, [])
  contents ++ ⟨(directory ++ endRecord files.length directory.length contents.size).toArray⟩

/-- The fields of the format can hold a file. -/
def FileFits (file : String × ByteArray) : Prop :=
  (Text.bytes file.1).length < 0x10000 ∧ file.2.size < 0x100000000

/-- The fields of the format can hold some files. -/
def Fits (files : List (String × ByteArray)) : Prop :=
  files.length < 0x10000 ∧ ∀ file ∈ files, FileFits file

instance (file : String × ByteArray) : Decidable (FileFits file) :=
  inferInstanceAs (Decidable (_ ∧ _))

instance (files : List (String × ByteArray)) : Decidable (Fits files) :=
  inferInstanceAs (Decidable (_ ∧ _))

/-- Packs files, unless two of them have the same name or they do not fit. -/
def pack (files : List (String × ByteArray)) : Except IoError ByteArray :=
  if ¬ (files.map (·.1)).Nodup then .error (.other "invalid Zip archive: Duplicate filename")
  else if ¬ Fits files then .error (.other "Large file option has not been set")
  else .ok (write files)

/-! ## Reading -/

/-- The number that bytes stand for. -/
def numberOf : List UInt8 → Nat
  | [] => 0
  | b :: rest => b.toNat + 0x100 * numberOf rest

/-- Takes so many bytes off the front. -/
def takeBytes (n : Nat) (bytes : List UInt8) : Option (List UInt8 × List UInt8) :=
  let front := bytes.take n
  if front.length = n then some (front, bytes.drop n) else none

/-- Takes a number off the front. -/
def takeNumber (width : Nat) (bytes : List UInt8) : Option (Nat × List UInt8) := do
  let (field, rest) ← takeBytes width bytes
  return (numberOf field, rest)

/-- Takes a mark off the front. -/
def takeMark (mark bytes : List UInt8) : Option (List UInt8) := do
  let (found, rest) ← takeBytes mark.length bytes
  if found = mark then some rest else none

/-- Takes a stored file off the front, with its header. -/
def takeFile (bytes : List UInt8) : Option ((String × ByteArray) × List UInt8) := do
  let bytes ← takeMark fileMark bytes
  let (_version, bytes) ← takeNumber 2 bytes
  let (_flags, bytes) ← takeNumber 2 bytes
  let (method, bytes) ← takeNumber 2 bytes
  let (_date, bytes) ← takeNumber 4 bytes
  let (checksum, bytes) ← takeNumber 4 bytes
  let (stored, bytes) ← takeNumber 4 bytes
  let (size, bytes) ← takeNumber 4 bytes
  let (nameLength, bytes) ← takeNumber 2 bytes
  let (extraLength, bytes) ← takeNumber 2 bytes
  let (name, bytes) ← takeBytes nameLength bytes
  let (_extra, bytes) ← takeBytes extraLength bytes
  let (found, bytes) ← takeBytes stored bytes
  let content : ByteArray := ⟨found.toArray⟩
  if method = 0 ∧ size = stored ∧ (Digest.Crc32.checksum content).toNat = checksum then
    some ((Text.lossy name, content), bytes)
  else none

/-- Takes so many files off the front. -/
def takeFiles : Nat → List UInt8 → Option (List (String × ByteArray))
  | 0, _ => some []
  | count + 1, bytes => do
    let (file, bytes) ← takeFile bytes
    return file :: (← takeFiles count bytes)

/-- The length of the end record. -/
def endLength : Nat := 22

/-- The number of files in an archive, from its end record. -/
def countFiles (bytes : List UInt8) : Option Nat := do
  let bytes ← takeMark endMark (bytes.drop (bytes.length - endLength))
  let (_disks, bytes) ← takeNumber 4 bytes
  let (_here, bytes) ← takeNumber 2 bytes
  let (count, _) ← takeNumber 2 bytes
  return count

/-- The files in an archive. -/
def unpack (archive : ByteArray) : Option (List (String × ByteArray)) := do
  takeFiles (← countFiles archive.data.toList) archive.data.toList

/-- The zip format, with files that are stored as they are. -/
def format : ArchiveFormat where
  pack := pack
  unpack := unpack

end Codewright.Workspace.Zip
