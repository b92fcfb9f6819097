import Codewright.Proofs.Text.Utf8
import Codewright.Proofs.Workspace.Path
import Codewright.Staging

/-!
# Spellings of a path

A path can be spelled in several ways. Slashes at its start count neither for the place in the
workspace nor for the address under which a file is staged, so that one address stands for one place.
A dot or a second slash further on makes another address for the same place.
-/

namespace Codewright.Workspace

open Workspace.Path (follow? inWorkspace? splitNames)

/-! ## Bytes of a text -/

theorem bytes_slash (text : List Char) :
    Text.bytes (String.ofList ('/' :: text)) = slash :: Text.bytes (String.ofList text) := by
  rw [Text.bytes_ofList, Text.bytes_ofList, List.flatMap_cons]
  rfl

/-! ## Slashes at the start -/

namespace Path

theorem follow?_slash (p : Path) (text : List UInt8) :
    follow? p (PathStep.ofText (slash :: text)) = follow? p (PathStep.ofText text) := by
  rw [follow?_ofText, follow?_ofText]
  simp [splitNames, PathStep.ofName?]

theorem inWorkspace?_dropWhile (root : Path) (text : List Char) :
    root.inWorkspace? (String.ofList (text.dropWhile (· = '/'))) =
      root.inWorkspace? (String.ofList text) := by
  induction text with
  | nil => rfl
  | cons c text ih =>
      by_cases h : c = '/'
      · subst h
        rw [List.dropWhile_cons_of_pos (by simp), ih, inWorkspace?, inWorkspace?,
          bytes_slash, follow?_slash]
      · rw [List.dropWhile_cons_of_neg (by simpa using h)]

/-- Files of a round with the same address have the same place. -/
theorem inWorkspace?_eq_of_ofFile_eq (root : Path) {uploadId a b : String}
    (h : Staging.Uri.ofFile uploadId a = Staging.Uri.ofFile uploadId b) :
    root.inWorkspace? a = root.inWorkspace? b := by
  have hpath := congrArg Staging.Uri.path h
  simp only [Staging.Uri.ofFile, String.append_right_inj, String.ofList_inj] at hpath
  have ha := inWorkspace?_dropWhile root a.toList
  have hb := inWorkspace?_dropWhile root b.toList
  rw [String.ofList_toList] at ha hb
  rw [← ha, ← hb, hpath]

end Path

end Codewright.Workspace
