import Codewright.Proofs.Workspace.Tree

/-!
# What one change does

A file that is written lies where its path leads, one that is removed is gone, and directories may
have been made on the way. A change that fails leaves no more than such directories behind, and the
beginning of the content if it was a write that had begun. Where the directories are there already,
none are made.
-/

namespace Codewright.Workspace

namespace FileSystem

variable {fs fs' made : FileSystem} {links : Nat} {dir loc : Location} {p : Path}
  {names : List Name} {content : ByteArray} {breakage? : Option Breakage}

/-! ## One change -/

/-- A file is written where the path leads, and on the way directories may be made. -/
inductive Puts (p : Path) (content : ByteArray) (fs : FileSystem) : FileSystem → Prop where
  | done {made : FileSystem} {loc : Location} :
      Makes p fs made → made.locate .newFile p = .ok loc → made.get? loc ≠ some .dir →
      Puts p content fs (made.set loc (.file content))

/-- What is at a path is removed if there is something, and if it is no directory. -/
inductive Drops (p : Path) (fs : FileSystem) : FileSystem → Prop where
  | removed {loc : Location} {e : Entry} :
      fs.find .entry p = .ok (loc, e) → e ≠ .dir → Drops p fs (fs.erase loc)
  | missing : fs.find .entry p = .error .notFound → Drops p fs fs

theorem puts_of_fillFile {made : FileSystem} (hmade : fs.makeParent p = (made, none))
    (hfill : made.fillFile p content = .ok fs') : Puts p content fs fs' := by
  have hmakes := Makes.makeParent fs p
  rw [hmade] at hmakes
  obtain ⟨loc, hloc, hdir, rfl⟩ := fillFile_ok hfill
  exact .done hmakes hloc hdir

theorem puts_of_putFile (h : fs.putFile breakage? p content = (fs', .ok ⟨⟩)) :
    Puts p content fs fs' := by
  cases Put.of_putFile h with
  | written _ hmade hfill => exact puts_of_fillFile hmade hfill

theorem putFile_of_fillFile {made : FileSystem} (hmade : fs.makeParent p = (made, none))
    (hfill : made.fillFile p content = .ok fs') : fs.putFile none p content = (fs', .ok ⟨⟩) := by
  rw [putFile, hmade]
  simp only [writeFile, arrived, hfill, Option.map_none]

theorem parent_of_makeParent {e : ChangeError} (h : fs.makeParent p = (fs', some e)) :
    p.parent? = some e.path := by
  unfold makeParent at h
  split at h
  · cases h
  · rename_i dir hdir
    obtain ⟨cause, -, rfl⟩ := Option.map_eq_some_iff.mp (Prod.mk.inj h).2
    exact hdir

/-- A file that can not be written leaves no more than directories behind, unless the write has
broken off. -/
theorem putFile_error {e : ChangeError} (h : fs.putFile breakage? p content = (fs', .error e)) :
    (fs.putFile none p content = (fs', .error e) ∧ Makes p fs fs' ∧
        (e.path = p ∨ p.parent? = some e.path)) ∨
      ∃ b, breakage? = some b ∧ e = ⟨p, b.cause⟩ ∧
        Puts p (content.extract 0 b.written) fs fs' := by
  have hmakes := Makes.makeParent fs p
  cases Put.of_putFile h with
  | noDirectory hmade =>
      rw [hmade] at hmakes
      exact .inl ⟨by rw [putFile, hmade], hmakes, .inr (parent_of_makeParent hmade)⟩
  | notOpened hmade hfill =>
      rw [hmade] at hmakes
      refine .inl ⟨?_, hmakes, .inl rfl⟩
      rw [putFile, hmade]
      simp only [writeFile, fillFile_error hfill]
  | brokenOff hb hmade hfill => exact .inr ⟨_, hb, rfl, puts_of_fillFile hmade hfill⟩

theorem Makes.file_iff (h : Makes p fs fs') (loc : Location) (content : ByteArray) :
    fs'.get? loc = some (.file content) ↔ fs.get? loc = some (.file content) := by
  refine ⟨fun he => ?_, h.kept loc _⟩
  rcases h.new loc _ he with he | ⟨hdir, -⟩
  · exact he
  · cases hdir

/-- A file that has been put somewhere has this content, and all other files are as they were. -/
theorem Puts.file_iff (h : Puts p content fs fs') :
    ∃ loc, fs'.get? loc = some (.file content) ∧ ∀ other c, other ≠ loc →
      (fs'.get? other = some (.file c) ↔ fs.get? other = some (.file c)) := by
  cases h with
  | @done made loc hmakes _ hdir =>
      have hne : loc ≠ [] := by
        rintro rfl
        exact hdir rfl
      refine ⟨loc, (get?_set hne ..).trans (if_pos rfl), fun other c hother => ?_⟩
      rw [get?_set hne, if_neg hother]
      exact hmakes.file_iff other c

theorem drops_of_dropFile {gone : Bool} (h : fs.dropFile p = (fs', .ok gone)) : Drops p fs fs' := by
  unfold dropFile at h
  split at h
  · rename_i hr
    cases h
    obtain ⟨loc, e, hfound, hdir, rfl⟩ := removeFile_ok hr
    exact .removed hfound hdir
  · rename_i hr
    cases h
    exact .missing (find_of_removeFile_error hr)
  · cases h

theorem dropFile_of_find {e : Entry} (h : fs.find .entry p = .ok (loc, e)) (hdir : e ≠ .dir) :
    fs.dropFile p = (fs.erase loc, .ok true) := by
  cases e with
  | dir => exact absurd rfl hdir
  | file | link => simp [dropFile, removeFile, h]

theorem dropFile_of_notFound (h : fs.find .entry p = .error .notFound) :
    fs.dropFile p = (fs, .ok false) := by
  simp [dropFile, removeFile, h]

theorem dropFile_error {e : ChangeError} (h : fs.dropFile p = (fs', .error e)) :
    fs' = fs ∧ e.path = p := by
  unfold dropFile at h
  split at h
  · cases h
  · cases h
  · cases h
    exact ⟨rfl, rfl⟩

/-! ## Directories that are there -/

/-- What is no link is found where the entry of that name is. -/
theorem walk_target_of_entry (hw : fs.walk .entry links dir names = .ok loc)
    (hl : ∀ target, fs.get? loc ≠ some (.link target)) :
    fs.walk .target links dir names = .ok loc := by
  have hrest (rest : List Name) : ¬ RulesOutFile .target rest := fun h => Aim.noConfusion h.1
  refine Walks.walk ?_
  replace hw := Walks.of_walk hw
  induction hw with
  | nil => exact .nil
  | stay hstays _ ih => exact .stay hstays (ih hl)
  | up _ ih => exact .up (ih hl)
  | into hproper hlength _ hdir _ ih => exact .into hproper hlength (hrest _) hdir (ih hl)
  | follow hproper hlength _ hlink _ _ ih =>
      exact .follow hproper hlength (hrest _) hlink (fun hentry => Aim.noConfusion hentry.2) (ih hl)
  | last hproper hlength hdir =>
      exact .last hproper hlength hdir fun target he => absurd he (hl target)

theorem find_target_of_entry (hloc : fs.locate .entry p = .ok loc) (hd : fs.get? loc = some .dir) :
    fs.find .target p = .ok (loc, .dir) := by
  obtain ⟨start, names, hstart, hw⟩ := walk_of_locate hloc
  have htarget := walk_target_of_entry hw fun target hl => by cases hd.symm.trans hl
  exact find_eq ((locate_congr hloc hstart).trans htarget) hd

theorem isDir_iff : fs.isDir p = true ↔ ∃ loc, fs.find .target p = .ok (loc, .dir) := by
  unfold isDir
  split
  · rename_i loc hfound
    exact ⟨fun _ => ⟨loc, hfound⟩, fun _ => rfl⟩
  · rename_i hne
    exact ⟨nofun, fun ⟨loc, hfound⟩ => absurd hfound (hne loc)⟩

theorem ensureDir_ok (h : fs.ensureDir p = (fs', none)) :
    ∃ loc, fs'.find .target p = .ok (loc, .dir) := by
  unfold ensureDir at h
  split at h
  · rename_i hm
    cases h
    have hkeeps := (adds_makeDir hm).toKeeps
    obtain ⟨loc, hloc, -, hne, rfl⟩ := makeDir_ok hm
    exact ⟨loc, find_target_of_entry (hkeeps.locate hloc) ((get?_set hne ..).trans (if_pos rfl))⟩
  · split at h
    · rename_i hdir
      cases h
      exact isDir_iff.mp hdir
    · cases h

theorem makeDirsFrom_ok {depth : Nat} (h : fs.makeDirsFrom depth p = (fs', none))
    (hp : p.bytes ≠ []) : ∃ loc, fs'.find .target p = .ok (loc, .dir) := by
  cases depth with
  | zero =>
      rw [makeDirsFrom, if_neg hp] at h
      exact ensureDir_ok h
  | succ depth =>
      rw [makeDirsFrom, if_neg hp] at h
      split at h
      · split at h
        · cases h
        · exact ensureDir_ok h
      · exact ensureDir_ok h

theorem makeDirs_of_nil (h : p.bytes = []) : fs.makeDirs p = (fs, none) := by
  rw [makeDirs]
  cases p.base.length + p.names.length with
  | zero | succ => rw [makeDirsFrom, if_pos h]

theorem makeDirs_of_find (h : fs.find .target p = .ok (loc, .dir)) :
    fs.makeDirs p = (fs, none) := by
  have hne := (Accepts.of_locate (of_find h).1).ne_nil
  obtain hnil | ⟨e, he, -⟩ := taken_of_find h
  · exact absurd hnil hne
  have hensure : fs.ensureDir p = (fs, none) := by
    rw [ensureDir, he]
    dsimp only
    rw [if_pos (isDir_iff.mpr ⟨loc, h⟩)]
  rw [makeDirs]
  cases p.base.length + p.names.length with
  | zero | succ =>
      rw [makeDirsFrom, if_neg hne, hensure]

/-- When the directory of a path has been made it is not made again. -/
theorem makeParent_again (h : fs.makeParent p = (made, none)) (hk : Keeps made fs') :
    fs'.makeParent p = (fs', none) := by
  unfold makeParent at h ⊢
  split at h
  · rfl
  · rename_i dir hdir
    obtain ⟨hfs, he⟩ := Prod.mk.inj h
    have hmade : fs.makeDirs dir = (made, none) := Prod.ext hfs (Option.map_eq_none_iff.mp he)
    have hagain : fs'.makeDirs dir = (fs', none) := by
      by_cases hbytes : dir.bytes = []
      · exact makeDirs_of_nil hbytes
      · obtain ⟨loc, hfound⟩ := makeDirsFrom_ok hmade hbytes
        exact makeDirs_of_find (hk.find_dir hfound)
    dsimp only
    rw [hagain]
    rfl

end FileSystem

end Codewright.Workspace
