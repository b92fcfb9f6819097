import Codewright.Proofs.Workspace.Effects
import Codewright.Proofs.Workspace.Folder

/-!
# Files are found where they are listed

In a file system whose names are such as files can have, the path of a listed file leads to that
file: what is read, written or removed there is the file itself. Below the root a listing follows no
links, and the directories on the way are all there.
-/

namespace Codewright.Workspace

/-- A name that a file can have. -/
structure Name.IsLegal (name : Name) : Prop extends name.IsProper where
  no_slash : slash ∉ name
  no_nul : 0 ∉ name
  short : name.length ≤ maxNameLength

theorem Name.IsLegal.delimited {name : Name} (h : name.IsLegal) : name ≠ [] ∧ slash ∉ name :=
  ⟨h.ne_nil, h.no_slash⟩

instance (name : Name) : Decidable name.IsLegal :=
  decidable_of_iff
    ((name ≠ [] ∧ name ≠ Path.here ∧ name ≠ Path.up) ∧
      slash ∉ name ∧ 0 ∉ name ∧ name.length ≤ maxNameLength)
    ⟨fun ⟨⟨hnil, hhere, hup⟩, hslash, hnul, hshort⟩ => ⟨⟨hnil, hhere, hup⟩, hslash, hnul, hshort⟩,
      fun h => ⟨⟨h.ne_nil, h.ne_here, h.ne_up⟩, h.no_slash, h.no_nul, h.short⟩⟩

/-- All names in a file system are such as files can have. -/
def FileSystem.Legal (fs : FileSystem) : Prop :=
  ∀ loc e, fs.get? loc = some e → ∀ name ∈ loc, name.IsLegal

theorem FileSystem.legal_of_toList {fs : FileSystem}
    (h : ∀ x ∈ fs.toList, ∀ name ∈ x.1, name.IsLegal) : fs.Legal := by
  intro loc e he name hname
  rw [FileSystem.get?, if_neg (List.ne_nil_of_mem hname)] at he
  exact h (loc, e) (Std.ExtTreeMap.mem_toList_iff_getElem?_eq_some.mpr he) name hname

/-! ## The directory of a path -/

namespace FileSystem

variable {fs : FileSystem} {home loc : Location} {p : Path}

/-- The directory of a base without names behind it is there. -/
theorem find_trimBase (h : fs.find .target p = .ok (home, .dir)) (hn : p.names = []) :
    ∃ loc, fs.find .target ⟨Path.trimBase p.base, []⟩ = .ok (loc, .dir) := by
  obtain ⟨hloc, hdir⟩ := of_find h
  obtain ⟨start, names, links, hstart, hpasses⟩ := passes_of_find h
  rw [hn, List.append_nil] at hpasses
  have hbase : p.base ≠ [] := base_ne_nil_of_find h hn
  obtain ⟨kept, hkept, hnames⟩ := baseStart?_trimBase hbase hstart
  have haccepts : Accepts ⟨Path.trimBase p.base, []⟩ := by
    refine (Accepts.of_locate hloc).shorten ?_ ?_
    · rw [Path.bytes, if_pos rfl, Path.bytes, if_pos hn]
      exact Path.trimBase_isPrefix p.base
    · exact Path.trimBase_ne_nil hbase
  have hwalk := haccepts.locate hkept .target
  rw [List.append_nil] at hwalk
  obtain ⟨skipped, rfl, hs⟩ | ⟨rfl, rfl⟩ := hnames
  · obtain ⟨links₁, loc, h₁, h₂⟩ := hpasses.split
    obtain rfl := h₂.eq_of_stays hs
    exact ⟨home, find_eq (hwalk.trans h₁.walk_target) hdir⟩
  · exact ⟨[], find_eq (hwalk.trans (by rw [walk_stays (.inl rfl), walk])) rfl⟩

/-- No directories are made on the way to what lies in one. -/
theorem makeParent_of_find (h : fs.find .target p = .ok (loc, .dir)) (name : Name) :
    fs.makeParent (p.child name) = (fs, none) := by
  obtain ⟨dir, hdir, hfound⟩ : ∃ dir, (p.child name).parent? = some dir ∧
      ∃ loc, fs.find .target dir = .ok (loc, .dir) := by
    rw [Path.child, Path.parent?_concat]
    split
    · rename_i hn
      exact ⟨_, rfl, find_trimBase h hn⟩
    · exact ⟨p, rfl, loc, h⟩
  obtain ⟨loc', hfound⟩ := hfound
  rw [makeParent, hdir]
  dsimp only
  rw [makeDirs_of_find hfound]
  rfl

end FileSystem

/-! ## Listed files -/

namespace WorkspaceFile

open FileSystem (Accepts)

variable {fs : FileSystem} {useRules : Bool} {depth : Nat} {f : Folder} {chain : IgnoreChain}
  {loc : Location} {names : List Name} {content : ByteArray} {root : Path}
  {files : List WorkspaceFile} {file : WorkspaceFile}

/-- The way to a file leads straight down through directories. -/
theorem Folder.Leads.passes (h : Leads fs useRules f chain names content) (hf : f.Mirrors fs loc)
    (hfs : fs.Legal) (hdir : fs.get? loc = some .dir) (links : Nat) :
    ∃ init last, names = init ++ [last] ∧ fs.Passes links loc init links (loc ++ init) ∧
      fs.get? (loc ++ init) = some .dir ∧ fs.get? (loc ++ names) = some (.file content) := by
  induction h generalizing loc with
  | @file f chain name content hmem _ =>
      rw [hf.mem_entries] at hmem
      refine ⟨[], name, rfl, ?_, ?_, hmem⟩
      · rw [List.append_nil]
        exact .nil
      · rw [List.append_nil]
        exact hdir
  | @dir f chain name names content hmem _ _ ih =>
      rw [hf.mem_entries] at hmem
      obtain ⟨init, last, rfl, hpasses, hinit, hfile⟩ := ih (hf.child name) hmem
      have hname : name.IsLegal := hfs _ _ hmem name (List.mem_append_right _ (.head _))
      rw [List.append_assoc, List.singleton_append] at hpasses hinit hfile
      exact ⟨name :: init, last, rfl, .into hname.toIsProper hname.short hmem hpasses, hinit, hfile⟩

/-- The path of a listed file can be looked up. -/
theorem accepts_of_mem_listBelow (hfs : fs.Legal) (hf : f.Mirrors fs loc)
    (hbytes : f.bytes = f.path.bytes) (hnames : ∀ name ∈ f.path.names, name.IsLegal)
    (hnul : 0 ∉ f.path.bytes) (h : listBelow fs useRules depth f chain = .ok files)
    (hfile : file ∈ files) : Accepts file.path := by
  induction depth generalizing f chain loc files with
  | zero => cases h
  | succ depth ih =>
      obtain ⟨⟨name, entry⟩, hmem, row, hrow, hfile⟩ := (mem_listBelow_succ h).mp hfile
      rw [hf.mem_entries] at hmem
      have hname : name.IsLegal := hfs _ _ hmem name (List.mem_append_right _ (.head _))
      have hchild := Path.bytes_child (fun n hn => (hnames n hn).delimited) name
      have hnul' : 0 ∉ (f.path.child name).bytes := by
        rw [hchild]
        intro hzero
        rcases Path.mem_joinName hzero with hzero | hzero | hzero
        · exact hnul hzero
        · cases hzero
        · exact hname.no_nul hzero
      obtain rfl | ⟨content, -, -, hlength, rfl⟩ | ⟨-, -, hbelow⟩ := listEntry_ok hrow
      · cases hfile
      · obtain rfl := List.mem_singleton.mp hfile
        refine ⟨hnul', ?_, ?_⟩
        · exact hchild ▸ Path.joinName_ne_nil f.path.bytes hname.ne_nil
        · rw [Folder.entryBytes, hbytes, ← hchild] at hlength
          exact hlength
      · refine ih (hf.child name) ?_ (fun n hn => ?_) hnul' hbelow hfile
        · exact (congrArg (Path.joinName · name) hbytes).trans hchild.symm
        · rcases List.mem_append.mp hn with hn | hn
          · exact hnames n hn
          · exact List.mem_singleton.mp hn ▸ hname

/-- The path of a listed file leads to that file, and its directory is there. -/
theorem located_of_mem_list (hfs : fs.Legal) (hroot : ∀ name ∈ root.names, name.IsLegal)
    (h : list fs root useRules = .ok files) (hfile : file ∈ files) :
    ∃ home names, fs.find .target root = .ok (home, .dir) ∧
      file.path = { root with names := root.names ++ names } ∧
      fs.get? (home ++ names) = some (.file file.content) ∧
      (∀ aim, fs.locate aim file.path = .ok (home ++ names)) ∧
      ∃ dir name loc, file.path = dir.child name ∧ fs.find .target dir = .ok (loc, .dir) := by
  obtain rfl | ⟨home, hfind, hbelow⟩ := list_ok h
  · cases hfile
  have hmirrors := Folder.mirrors_top fs root home
  obtain ⟨hloc, hdir⟩ := FileSystem.of_find hfind
  obtain ⟨names, content, hleads, rfl⟩ := leads_of_mem_listBelow hbelow hfile
  have haccepts : Accepts ((Folder.top fs root home).fileAt names content).path :=
    accepts_of_mem_listBelow hfs hmirrors rfl hroot (Accepts.of_locate hloc).no_nul hbelow hfile
  obtain ⟨start, first, links, hstart, hpasses⟩ := FileSystem.passes_of_find hfind
  obtain ⟨init, last, rfl, hinit, hinitdir, hget⟩ := hleads.passes hmirrors hfs hdir links
  have hlegal : ∀ name ∈ init ++ [last], name.IsLegal :=
    fun name hname => hfs _ _ hget name (List.mem_append_right _ hname)
  have hlast : last.IsLegal := hlegal last (List.mem_append_right _ (.head _))
  let dir : Path := { root with names := root.names ++ init }
  have hpath :
      ((Folder.top fs root home).fileAt (init ++ [last]) content).path = dir.child last := by
    simp [Folder.fileAt, Folder.top, Path.child, dir]
  -- The links left over at the root are left over below it: none is followed there.
  have hway : fs.Passes maxLinks start (first ++ dir.names) links (home ++ init) := by
    rw [← List.append_assoc]
    exact hpasses.append hinit
  rw [hpath] at haccepts ⊢
  refine ⟨home, init ++ [last], hfind, hpath.symm, hget, fun aim => ?_, dir, last, home ++ init,
    rfl, ?_⟩
  · rw [← List.append_assoc] at hget ⊢
    have hlink : ∀ target, fs.get? (home ++ init ++ [last]) ≠ some (.link target) := by
      intro target hlink
      rw [hget] at hlink
      cases hlink
    exact haccepts.locate_child hstart hway hlast.toIsProper hlast.short hlink aim
  · have hinitlegal : ∀ name ∈ init, name.IsLegal :=
      fun name hname => hlegal name (List.mem_append_left _ hname)
    have hdirlegal : ∀ name ∈ dir.names, name.IsLegal := fun name hname =>
      (List.mem_append.mp hname).elim (hroot name) (hinitlegal name)
    have hdiraccepts : Accepts dir := by
      refine haccepts.shorten ?_ (Path.bytes_append_ne_nil (Accepts.of_locate hloc).ne_nil
        fun name hname => (hinitlegal name hname).ne_nil)
      rw [Path.bytes_child fun n hn => (hdirlegal n hn).delimited]
      exact Path.isPrefix_joinName dir.bytes last
    exact FileSystem.find_eq (hdiraccepts.locate_target hstart hway) hinitdir

/-- A listed file is removed and written at its path. -/
theorem changed_of_mem_list (hfs : fs.Legal) (hroot : ∀ name ∈ root.names, name.IsLegal)
    (h : list fs root useRules = .ok files) (hfile : file ∈ files) :
    ∃ home names, fs.find .target root = .ok (home, .dir) ∧
      file.path = { root with names := root.names ++ names } ∧
      fs.get? (home ++ names) = some (.file file.content) ∧
      fs.dropFile file.path = (fs.erase (home ++ names), .ok true) ∧
      ∀ content,
        fs.putFile none file.path content = (fs.set (home ++ names) (.file content), .ok ()) := by
  obtain ⟨home, names, hfind, hpath, hget, hlocate, dir, name, loc, hdir, hfound⟩ :=
    located_of_mem_list hfs hroot h hfile
  refine ⟨home, names, hfind, hpath, hget, ?_, fun content => ?_⟩
  · exact FileSystem.dropFile_of_find (FileSystem.find_eq (hlocate .entry) hget) nofun
  · have hwrite : fs.fillFile file.path content =
        .ok (fs.set (home ++ names) (.file content)) := by
      rw [FileSystem.fillFile, hlocate .newFile]
      dsimp only
      rw [hget]
    have hparent : fs.makeParent file.path = (fs, none) := by
      rw [hdir]
      exact FileSystem.makeParent_of_find hfound name
    exact FileSystem.putFile_of_fillFile hparent hwrite

end WorkspaceFile

end Codewright.Workspace
