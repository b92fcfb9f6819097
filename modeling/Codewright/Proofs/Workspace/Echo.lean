import Codewright.Proofs.Workspace.Legal
import Codewright.Proofs.Workspace.Segments

/-!
# Listed paths, read again

The relative path of a listed file is read as the path of that file, as long as the path is text. If
the service names a file as it was told of it, it therefore means that file and no other.
-/

namespace Codewright.Workspace.WorkspaceFile

open Workspace.Path (joinNames segments splitNames)

variable {fs : FileSystem} {root : Path} {useRules : Bool} {files : List WorkspaceFile}
  {f g : WorkspaceFile}

/-- The path of a file below a root is text. -/
def IsText (root : Path) (f : WorkspaceFile) : Prop :=
  ∃ names s, f.path.names = root.names ++ names ∧ joinNames names = Text.bytes s

/-- Legal names lead from the root to a listed file, whose relative path is what they stand for. -/
theorem legal_of_mem_list (hfs : fs.Legal) (h : list fs root useRules = .ok files)
    (hf : f ∈ files) :
    ∃ names, names ≠ [] ∧ (∀ name ∈ names, name.IsLegal) ∧
      f.path = { root with names := root.names ++ names } ∧
      f.relativePath = relativeText names := by
  obtain ⟨home, names, content, hfind, hleads, rfl⟩ := leads_of_mem_list h hf
  obtain ⟨_, _, -, -, -, hget⟩ :=
    hleads.passes (Folder.mirrors_top fs root home) hfs (FileSystem.of_find hfind).2 0
  exact ⟨names, hleads.names_ne_nil,
    fun name hname => hfs _ _ hget name (List.mem_append_right _ hname), rfl, rfl⟩

/-- The names in a relative path that is text are those that lead to the file. -/
theorem splitNames_relativePath (hfs : fs.Legal) (h : list fs root useRules = .ok files)
    (hf : f ∈ files) (ht : f.IsText root) :
    f.path = { root with names := root.names ++ splitNames (Text.bytes f.relativePath) } ∧
      ∀ name ∈ splitNames (Text.bytes f.relativePath), name.IsProper := by
  obtain ⟨names, hne, hlegal, hpath, hrelative⟩ := legal_of_mem_list hfs h hf
  obtain ⟨names', s, hnames, hs⟩ := ht
  rw [hpath] at hnames
  obtain rfl : names = names' := List.append_cancel_left hnames
  have hslash : ∀ name ∈ names, slash ∉ name := fun name hname => (hlegal name hname).no_slash
  have hsplit : splitNames (Text.bytes f.relativePath) = names := by
    rw [hrelative, relativeText_eq hne hslash hs, ← hs, Path.splitNames_joinNames hne hslash]
  rw [hsplit]
  exact ⟨hpath, fun name hname => (hlegal name hname).toIsProper⟩

/-- A listed file is found again by its relative path, and no other file is: relative paths are
different, and they are plain. What is then done at the path is done to the file. -/
theorem relativePath_names_file (hfs : fs.Legal) (h : list fs root useRules = .ok files) :
    (∀ f ∈ files, f.IsText root →
      root.inWorkspace? f.relativePath = some f.path ∧
      f.relativePath ≠ "" ∧ f.relativePath.toList.head? ≠ some '/' ∧
      ∀ segment ∈ segments f.relativePath, segment ≠ "" ∧ segment ≠ "." ∧ segment ≠ "..") ∧
    (files.Pairwise fun f g =>
      f.IsText root → g.IsText root → f.relativePath ≠ g.relativePath) ∧
    ((∀ name ∈ root.names, name.IsLegal) → ∀ f ∈ files, ∃ home names,
      fs.find .target root = .ok (home, .dir) ∧
      f.path = { root with names := root.names ++ names } ∧
      fs.get? (home ++ names) = some (.file f.content) ∧
      fs.dropFile f.path = (fs.erase (home ++ names), .ok true) ∧
      ∀ content, fs.putFile none f.path content = (fs.set (home ++ names) (.file content), .ok ())) := by
  refine ⟨fun f hf ht => ?_, ?_, fun hroot f hf => changed_of_mem_list hfs hroot h hf⟩
  · obtain ⟨hpath, hproper⟩ := splitNames_relativePath hfs h hf ht
    have hsegments : ∀ segment ∈ segments f.relativePath,
        segment ≠ "" ∧ segment ≠ "." ∧ segment ≠ ".." := by
      intro segment hsegment
      have hname : Name.IsProper (Text.bytes segment) := by
        refine hproper _ ?_
        rw [Path.splitNames_bytes]
        exact List.mem_map_of_mem hsegment
      refine ⟨?_, ?_, ?_⟩
      · rintro rfl
        exact hname.ne_nil (by decide +kernel)
      · rintro rfl
        exact hname.ne_here (by decide +kernel)
      · rintro rfl
        exact hname.ne_up (by decide +kernel)
    refine ⟨?_, fun hnil => ?_, fun hslash => ?_, hsegments⟩
    · rw [Path.inWorkspace?_of_proper root hproper, ← hpath]
    · exact (hsegments "" (Path.empty_mem_segments (.inl hnil))).1 rfl
    · exact (hsegments "" (Path.empty_mem_segments (.inr hslash))).1 rfl
  · refine (sorted_list h).imp_of_mem fun {f g} hf hg hlt htf htg heq => ?_
    obtain ⟨hpathf, -⟩ := splitNames_relativePath hfs h hf htf
    obtain ⟨hpathg, -⟩ := splitNames_relativePath hfs h hg htg
    rw [hpathf, hpathg, heq] at hlt
    exact List.lt_irrefl _ hlt

/-- A workspace with a file whose path is unusual, but text. -/
def oddFs : FileSystem :=
  .ofList [] [([Text.bytes "a. b"], .dir),
    ([Text.bytes "a. b", Text.bytes "x..\\é"], .file "E".toUTF8)]

def oddFile : WorkspaceFile :=
  ⟨"a. b/x..\\é", ⟨[slash], [Text.bytes "a. b", Text.bytes "x..\\é"]⟩, "E".toUTF8⟩

theorem list_oddFs : list oddFs ⟨[slash], []⟩ true = .ok [oddFile] := by
  cbv

theorem legal_oddFs : oddFs.Legal := by
  have htoList : oddFs.toList = [([Text.bytes "a. b"], .dir),
      ([Text.bytes "a. b", Text.bytes "x..\\é"], .file "E".toUTF8)] := by
    cbv
  refine FileSystem.legal_of_toList ?_
  rw [htoList]
  simp only [List.forall_mem_cons]
  decide +kernel

theorem relativePath_names_file_odd :
    let root : Path := ⟨[slash], []⟩
    (oddFs.Legal ∧ list oddFs root true = .ok [oddFile] ∧ oddFile.IsText root) ∧
      root.inWorkspace? "a. b/x..\\é" = some oddFile.path ∧
      (oddFs.dropFile oddFile.path).2 = .ok true := by
  intro root
  have htext : oddFile.IsText root :=
    ⟨oddFile.path.names, oddFile.relativePath, rfl, by decide +kernel⟩
  obtain ⟨hfound, -, hchanged⟩ := relativePath_names_file legal_oddFs list_oddFs
  obtain ⟨home, names, -, -, -, hdrop, -⟩ := hchanged nofun oddFile (.head _)
  exact ⟨⟨legal_oddFs, list_oddFs, htext⟩, (hfound oddFile (.head _) htext).1,
    congrArg Prod.snd hdrop⟩

end Codewright.Workspace.WorkspaceFile
