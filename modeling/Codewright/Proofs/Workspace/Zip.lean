import Mathlib.Algebra.Group.Nat.Defs
import Codewright.Proofs.Text.Utf8
import Codewright.Workspace.Zip

/-!
# The zip format, read again

What fits into the fields of the format is read back as it was written: first a field, whatever
stands behind it, then a file with its header, then the files one after another.
-/

namespace Codewright.Workspace.Zip

variable {width n : Nat} {name : String} {content : ByteArray} (rest : List UInt8)

/-! ## Fields -/

@[simp] theorem length_number (width n : Nat) : (number width n).length = width := by
  induction width generalizing n with
  | zero => rfl
  | succ width ih => rw [number, List.length_cons, ih]

theorem numberOf_number (h : n < 0x100 ^ width) : numberOf (number width n) = n := by
  induction width generalizing n with
  | zero => exact (Nat.lt_one_iff.mp h).symm
  | succ width ih =>
      have hrest : n / 0x100 < 0x100 ^ width := by
        rw [Nat.div_lt_iff_lt_mul (by decide), ← Nat.pow_succ]
        exact h
      rw [number, numberOf, ih hrest, UInt8.toNat_ofNat']
      exact Nat.mod_add_div n 0x100

theorem takeBytes_append {front : List UInt8} (h : front.length = n) :
    takeBytes n (front ++ rest) = some (front, rest) := by
  subst h
  rw [takeBytes, List.take_left, List.drop_left]
  exact if_pos rfl

theorem takeNumber_append {field : List UInt8} (h : field.length = width) :
    takeNumber width (field ++ rest) = some (numberOf field, rest) := by
  rw [takeNumber, takeBytes_append rest h]
  rfl

theorem takeNumber_number (h : n < 0x100 ^ width) :
    takeNumber width (number width n ++ rest) = some (n, rest) := by
  rw [takeNumber_append rest (length_number width n), numberOf_number h]

/-- Two numbers can be read as one. -/
theorem takeNumber_pair (m n : Nat) : takeNumber 4 (number 2 m ++ (number 2 n ++ rest)) =
    some (numberOf (number 2 m ++ number 2 n), rest) := by
  rw [← List.append_assoc]
  exact takeNumber_append rest (by rw [List.length_append, length_number, length_number])

theorem takeMark_append (mark : List UInt8) : takeMark mark (mark ++ rest) = some rest := by
  rw [takeMark, takeBytes_append rest rfl]
  exact if_pos rfl

/-! ## Files -/

/-- A file is read back behind its header. -/
theorem takeFile_append (h : FileFits (name, content)) :
    takeFile (header name content ++ (content.data.toList ++ rest)) =
      some ((name, content), rest) := by
  have hname : (Text.bytes name).length < 0x100 ^ 2 := h.1
  have hsize : content.size < 0x100 ^ 4 := h.2
  have hcrc : (Digest.Crc32.checksum content).toNat < 0x100 ^ 4 :=
    (Digest.Crc32.checksum content).toNat_lt
  have hzero (rest : List UInt8) : takeNumber 2 (number 2 0 ++ rest) = some (0, rest) :=
    takeNumber_number rest (by decide)
  have hversion (rest : List UInt8) : takeNumber 2 (number 2 20 ++ rest) = some (20, rest) :=
    takeNumber_number rest (by decide)
  have hflags (rest : List UInt8) : takeNumber 2 (number 2 0x800 ++ rest) = some (0x800, rest) :=
    takeNumber_number rest (by decide)
  have hextra (rest : List UInt8) : takeBytes 0 rest = some ([], rest) :=
    takeBytes_append (n := 0) rest (List.length_nil (α := UInt8))
  have hnameBytes (rest : List UInt8) :
      takeBytes (Text.bytes name).length (Text.bytes name ++ rest) = some (Text.bytes name, rest) :=
    takeBytes_append rest rfl
  have hcontent : content.data.toList.length = content.size := rfl
  simp only [takeFile, header, commonFields, List.append_assoc, takeMark_append, hzero, hversion,
    hflags, takeNumber_pair, hextra, takeNumber_number _ hcrc, takeNumber_number _ hsize,
    takeNumber_number _ hname, takeBytes_append _ hcontent, hnameBytes, Option.bind_eq_bind,
    Option.bind_some, Text.lossy_bytes, true_and, if_true]

/-- What is in an archive before its directory. -/
def contents (files : List (String × ByteArray)) : List UInt8 :=
  files.flatMap fun file => header file.1 file.2 ++ file.2.data.toList

theorem takeFiles_append {files : List (String × ByteArray)} (h : ∀ file ∈ files, FileFits file) :
    takeFiles files.length (contents files ++ rest) = some files := by
  induction files with
  | nil => rfl
  | cons file files ih =>
      have hfile := takeFile_append (contents files ++ rest) (h file (.head _))
      have hfiles := ih fun file hmem => h file (.tail _ hmem)
      rw [List.length_cons, takeFiles, contents, List.flatMap_cons, List.append_assoc,
        List.append_assoc]
      rw [contents] at hfile hfiles
      simp only [hfile, hfiles, Option.bind_eq_bind, Option.bind_some]
      rfl

/-! ## Archives -/

theorem foldl_append (files : List (String × ByteArray)) (written : ByteArray × List UInt8) :
    (files.foldl append written).1.data.toList = written.1.data.toList ++ contents files := by
  induction files generalizing written with
  | nil => exact (List.append_nil _).symm
  | cons file files ih =>
      rw [List.foldl_cons, ih]
      simp [append, contents]

/-- The bytes of an archive: the files, a directory, and the end record. -/
theorem write_eq (files : List (String × ByteArray)) :
    ∃ directory size offset, (write files).data.toList =
      contents files ++ (directory ++ endRecord files.length size offset) := by
  let written := files.foldl append (ByteArray.empty, [])
  have hcontents : written.1.data.toList = contents files :=
    foldl_append files (ByteArray.empty, [])
  have harchive : write files = written.1 ++
      ⟨(written.2 ++ endRecord files.length written.2.length written.1.size).toArray⟩ := rfl
  exact ⟨written.2, written.2.length, written.1.size, by
    rw [harchive, ByteArray.toList_data_append, hcontents]⟩

/-- An archive of one file, as other programs read it too. -/
example : write [("a", "1".toUTF8)] = ⟨#[
    0x50, 0x4B, 3, 4, 20, 0, 0, 8, 0, 0, 0, 0, 0x21, 0, 0xB7, 0xEF, 0xDC, 0x83,
    1, 0, 0, 0, 1, 0, 0, 0, 1, 0, 0, 0, 0x61, 0x31,
    0x50, 0x4B, 1, 2, 20, 3, 20, 0, 0, 8, 0, 0, 0, 0, 0x21, 0, 0xB7, 0xEF, 0xDC, 0x83,
    1, 0, 0, 0, 1, 0, 0, 0, 1, 0, 0, 0, 0, 0, 0, 0, 0, 0, 0, 0, 0xA4, 0x81, 0, 0, 0, 0, 0x61,
    0x50, 0x4B, 5, 6, 0, 0, 0, 0, 1, 0, 1, 0, 47, 0, 0, 0, 32, 0, 0, 0, 0, 0]⟩ := by
  decide +kernel

theorem countFiles_append {count : Nat} (h : count < 0x100 ^ 2) (front : List UInt8)
    (size offset : Nat) : countFiles (front ++ endRecord count size offset) = some count := by
  have hlength : (endRecord count size offset).length = endLength := by
    simp [endRecord, endMark, endLength]
  have hdrop : (front ++ endRecord count size offset).drop
      ((front ++ endRecord count size offset).length - endLength) =
        endRecord count size offset := by
    rw [List.length_append, hlength, Nat.add_sub_cancel]
    exact List.drop_left
  rw [countFiles, hdrop]
  simp only [endRecord, List.append_assoc, takeMark_append, takeNumber_pair,
    takeNumber_number _ h, Option.bind_eq_bind, Option.bind_some, Option.pure_def]

theorem unpack_write {files : List (String × ByteArray)} (h : Fits files) :
    unpack (write files) = some files := by
  obtain ⟨directory, size, offset, hwrite⟩ := write_eq files
  have hcount := countFiles_append h.1 (contents files ++ directory) size offset
  rw [List.append_assoc] at hcount
  rw [unpack, hwrite, hcount]
  exact takeFiles_append _ h.2

theorem pack_eq_ok_iff {files : List (String × ByteArray)} (h : Fits files) {archive : ByteArray} :
    pack files = .ok archive ↔ (files.map (·.1)).Nodup ∧ archive = write files := by
  rw [pack]
  split
  · rename_i hdup
    exact ⟨nofun, fun ⟨hnodup, _⟩ => absurd hnodup hdup⟩
  · rename_i hnodup
    rw [Except.ok.injEq]
    exact ⟨fun heq => ⟨Decidable.not_not.mp hnodup, heq.symm⟩, fun ⟨_, heq⟩ => heq.symm⟩

/-- Files that fit are kept. -/
theorem keeps {files : List (String × ByteArray)} (h : Fits files) : format.Keeps files where
  packs_iff :=
    ⟨fun ⟨_, hpack⟩ => ((pack_eq_ok_iff h).mp hpack).1,
      fun hnodup => ⟨_, (pack_eq_ok_iff h).mpr ⟨hnodup, rfl⟩⟩⟩
  unpack_pack := fun archive hpack => by
    obtain ⟨-, rfl⟩ := (pack_eq_ok_iff h).mp hpack
    exact unpack_write h

end Codewright.Workspace.Zip
