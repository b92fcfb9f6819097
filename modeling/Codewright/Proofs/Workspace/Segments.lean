import Codewright.Proofs.Workspace.Spelling
import Codewright.Workspace.Listing

/-!
# Segments of a text

Slashes split a text into segments. The bytes of the segments are the names in the bytes of the
text, for no other character has a slash among its bytes. What names stand for as text is therefore
read as these names again, if they are text at all.
-/

namespace Codewright.Workspace

open Workspace.Path (joinNames splitNames)

namespace Path

variable {name : Name} {names : List Name} {s : String}

/-! ## Slashes among bytes -/

theorem splitNames_append_of_not_mem (h : slash ∉ name) (rest : List UInt8) :
    splitNames (name ++ rest) = (splitNames rest).modifyHead (name ++ ·) := by
  obtain ⟨first, more, hrest⟩ := List.exists_cons_of_ne_nil (splitNames_ne_nil rest)
  induction name with
  | nil => simp [hrest]
  | cons b name ih =>
      have hb : b ≠ slash := fun hb => h (hb ▸ .head _)
      have hname : slash ∉ name := fun hname => h (.tail _ hname)
      rw [List.cons_append, splitNames, if_neg hb, ih hname, hrest]
      rfl

theorem slash_ne_ofNat {n : Nat} (h : n < 256) (hn : n ≠ 0x2F) : slash ≠ UInt8.ofNat n := by
  intro heq
  have hval : (0x2F : Nat) = (UInt8.ofNat n).toNat := congrArg UInt8.toNat heq
  rw [Text.toNat_ofNat h] at hval
  exact hn hval.symm

theorem slash_not_mem_utf8EncodeChar {c : Char} (h : c ≠ '/') :
    slash ∉ String.utf8EncodeChar c := by
  have hc : c.val.toNat ≠ 0x2F := fun hval => h (Char.ext (UInt32.toNat_inj.mp hval))
  unfold String.utf8EncodeChar
  dsimp only
  split
  · rw [List.mem_singleton]
    exact slash_ne_ofNat (by omega) hc
  -- The bytes of a longer character are all above those of ASCII.
  split
  · simp only [List.mem_cons, List.not_mem_nil, or_false, not_or]
    exact ⟨slash_ne_ofNat (by omega) (by omega), slash_ne_ofNat (by omega) (by omega)⟩
  split
  · simp only [List.mem_cons, List.not_mem_nil, or_false, not_or]
    exact ⟨slash_ne_ofNat (by omega) (by omega), slash_ne_ofNat (by omega) (by omega),
      slash_ne_ofNat (by omega) (by omega)⟩
  · simp only [List.mem_cons, List.not_mem_nil, or_false, not_or]
    exact ⟨slash_ne_ofNat (by omega) (by omega), slash_ne_ofNat (by omega) (by omega),
      slash_ne_ofNat (by omega) (by omega), slash_ne_ofNat (by omega) (by omega)⟩

/-! ## Segments -/

/-- The segments of a text. -/
def segments (s : String) : List String :=
  (s.toList.splitOn '/').map String.ofList

theorem splitNames_flatMap (text : List Char) :
    splitNames (text.flatMap String.utf8EncodeChar) =
      (text.splitOn '/').map (·.flatMap String.utf8EncodeChar) := by
  simp only [List.splitOn_eq_splitOnP]
  induction text with
  | nil => rfl
  | cons c text ih =>
      obtain ⟨first, more, hsplit⟩ :=
        List.exists_cons_of_ne_nil (List.splitOnP_ne_nil (· == '/') text)
      rw [List.flatMap_cons, List.splitOnP_cons_eq_if_modifyHead]
      by_cases hc : c = '/'
      · subst hc
        rw [if_pos (beq_self_eq_true _), List.map_cons, ← ih]
        rfl
      · rw [splitNames_append_of_not_mem (slash_not_mem_utf8EncodeChar hc), ih, hsplit,
          if_neg (by simpa using hc)]
        rfl

/-- The names in the bytes of a text are the bytes of its segments. -/
theorem splitNames_bytes (s : String) :
    splitNames (Text.bytes s) = (segments s).map Text.bytes := by
  have hbytes : (fun text => Text.bytes (String.ofList text)) =
      fun text => text.flatMap String.utf8EncodeChar := funext Text.bytes_ofList
  rw [← String.ofList_toList (s := s), Text.bytes_ofList, splitNames_flatMap, segments,
    List.map_map, String.toList_ofList, ← hbytes]
  rfl

theorem intercalate_segments (s : String) : String.intercalate "/" (segments s) = s := by
  rw [← String.toList_inj, String.toList_intercalate, segments, List.map_map]
  have hid : String.toList ∘ String.ofList = id := funext fun _ => String.toList_ofList
  rw [hid, List.map_id]
  exact List.intercalate_splitOn '/'

/-- The empty text and one that starts with a slash have an empty segment. -/
theorem empty_mem_segments (h : s = "" ∨ s.toList.head? = some '/') : "" ∈ segments s := by
  refine List.mem_map.mpr ⟨[], ?_, rfl⟩
  rcases h with rfl | h
  · exact .head _
  · obtain ⟨rest, hs⟩ := List.head?_eq_some_iff.mp h
    rw [hs, List.splitOn_eq_splitOnP, List.splitOnP_cons_eq_if_modifyHead,
      if_pos (beq_self_eq_true _)]
    exact .head _

/-! ## Proper names -/

/-- A text that holds proper names alone leads along these names. -/
theorem inWorkspace?_of_proper (root : Path)
    (h : ∀ name ∈ splitNames (Text.bytes s), name.IsProper) :
    root.inWorkspace? s =
      some { root with names := root.names ++ splitNames (Text.bytes s) } := by
  have hentries : entryNames s = splitNames (Text.bytes s) :=
    List.filter_eq_self.mpr fun name hname => decide_eq_true (h name hname).not_stays
  have hup : up ∉ splitNames (Text.bytes s) := fun hup => (h up hup).ne_up rfl
  rw [inWorkspace?_eq_names, hentries]
  exact if_neg (not_or.mpr ⟨hup, splitNames_ne_nil _⟩)

end Path

/-! ## Names that are text -/

/-- Names that are those in a text stand for that text. -/
theorem WorkspaceFile.relativeText_eq {names : List Name} {s : String} (hne : names ≠ [])
    (hslash : ∀ name ∈ names, slash ∉ name) (h : joinNames names = Text.bytes s) :
    relativeText names = s := by
  have hnames : names = (Path.segments s).map Text.bytes := by
    rw [← Path.splitNames_bytes, ← h, Path.splitNames_joinNames hne hslash]
  have hid : Text.lossy ∘ Text.bytes = id := funext Text.lossy_bytes
  rw [relativeText, hnames, List.map_map, hid, List.map_id, Path.intercalate_segments]

end Codewright.Workspace
