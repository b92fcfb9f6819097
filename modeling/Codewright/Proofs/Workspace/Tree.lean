import Codewright.Proofs.Workspace.Content

/-!
# What becomes of a tree

Files that are written and removed leave the rest of a tree alone. Directories are only made on the
way to what is written, and what is missing stays missing when more is removed.
-/

namespace Codewright.Workspace

namespace FileSystem

variable {fs fs' fs'' : FileSystem} {aim : Aim} {links : Nat} {dir home loc : Location}
  {root p q : Path} {names names' : List Name} {content : ByteArray} {W D : List Path}

/-! ## What is missing -/

theorem removeFile_ok (h : fs.removeFile p = .ok fs') :
    ∃ loc e, fs.find .entry p = .ok (loc, e) ∧ e ≠ .dir ∧ fs' = fs.erase loc := by
  unfold removeFile at h
  split at h
  · cases h
  · cases h
  · rename_i loc e hdir hfound
    cases h
    exact ⟨loc, e, hfound, fun he => hdir he, rfl⟩

/-- Entries other than directories have been removed. -/
structure Prunes (fs fs' : FileSystem) : Prop where
  get? : ∀ loc, fs'.get? loc = fs.get? loc ∨ fs'.get? loc = none ∧ fs.get? loc ≠ some .dir
  workingDirectory : fs'.workingDirectory = fs.workingDirectory

theorem prunes_removeFile (h : fs.removeFile p = .ok fs') : Prunes fs fs' := by
  obtain ⟨loc, e, hfound, hdir, rfl⟩ := removeFile_ok h
  obtain ⟨-, he⟩ := of_find hfound
  have hne : fs.get? loc ≠ some .dir := by
    rw [he]
    exact fun heq => hdir (Option.some.inj heq)
  have hnil : loc ≠ [] := by
    rintro rfl
    exact hne rfl
  refine ⟨fun l => ?_, rfl⟩
  rw [get?_erase hnil]
  split
  · rename_i hl
    exact .inr ⟨rfl, hl ▸ hne⟩
  · exact .inl rfl

/-- Nothing is there, or something on the way is missing. -/
def Misses (fs : FileSystem) : Except IoError Location → Prop
  | .ok loc => fs.get? loc = none
  | .error e => e = .notFound

theorem find_eq_notFound : fs.find .entry p = .error .notFound ↔ fs.Misses (fs.locate .entry p) := by
  unfold find Misses
  cases fs.locate .entry p with
  | error e => simp
  | ok loc =>
      cases hget : fs.get? loc with
      | none => simp [hget]
      | some e => simp [hget]

theorem isDirAt_iff : fs.isDirAt loc = true ↔ fs.get? loc = some .dir := by
  unfold isDirAt
  split
  · simp [*]
  · rename_i hne
    exact ⟨nofun, fun hd => absurd hd hne⟩

namespace Prunes

theorem get?_none (h : Prunes fs fs') (hnone : fs.get? loc = none) : fs'.get? loc = none := by
  rcases h.get? loc with heq | ⟨heq, -⟩
  · exact heq.trans hnone
  · exact heq

theorem get?_dir (h : Prunes fs fs') : fs'.get? loc = some .dir ↔ fs.get? loc = some .dir := by
  rcases h.get? loc with heq | ⟨heq, hne⟩
  · rw [heq]
  · simp [heq, hne]

theorem baseStart? (h : Prunes fs fs') (base : List UInt8) :
    fs'.baseStart? base = fs.baseStart? base := by
  have hdir : fs'.isDirAt fs.workingDirectory = fs.isDirAt fs.workingDirectory := by
    rw [Bool.eq_iff_iff, isDirAt_iff, isDirAt_iff, h.get?_dir]
  unfold FileSystem.baseStart?
  rw [h.workingDirectory, hdir]

theorem misses_walk (h : Prunes fs fs') {links : Nat} {dir : Location} {names : List Name}
    (hw : fs.Misses (fs.walk .entry links dir names)) :
    fs'.Misses (fs'.walk .entry links dir names) := by
  cases names with
  | nil =>
      rw [FileSystem.walk] at hw ⊢
      exact h.get?_none hw
  | cons name rest =>
      by_cases hstays : name.Stays
      · rw [walk_stays hstays] at hw ⊢
        exact h.misses_walk hw
      by_cases hup : name = Path.up
      · subst hup
        rw [walk_up] at hw ⊢
        exact h.misses_walk hw
      obtain ⟨hnil, hhere⟩ := not_or.mp hstays
      have hproper : name.IsProper := ⟨hnil, hhere, hup⟩
      have hlength : name.length ≤ maxNameLength := by
        refine Nat.not_lt.mp fun hlong => ?_
        rw [FileSystem.walk, if_neg hproper.not_stays, if_neg hproper.ne_up,
          if_neg (not_rulesOutFile_entry rest), if_pos hlong] at hw
        cases hw
      rw [walk_proper hproper hlength (not_rulesOutFile_entry rest)] at hw ⊢
      cases he : fs.get? (dir ++ [name]) with
      | none =>
          rw [h.get?_none he]
          dsimp only
          split
          · exact h.get?_none he
          · rfl
      | some e =>
          rw [he] at hw
          cases e with
          | dir =>
              rw [h.get?_dir.mpr he]
              exact h.misses_walk hw
          | file =>
              dsimp only at hw
              split at hw
              · cases he.symm.trans hw
              · cases hw
          | link target =>
              dsimp only at hw
              split at hw
              · cases he.symm.trans hw
              · rename_i hmore
                cases links with
                | zero => cases hw
                | succ links =>
                    -- The link itself may be gone, and then the way ends where it stood.
                    rcases h.get? (dir ++ [name]) with heq | ⟨heq, -⟩
                    · rw [heq, he]
                      dsimp only
                      rw [if_neg hmore]
                      exact h.misses_walk hw
                    · rw [heq]
                      dsimp only
                      rw [if_neg fun hnil => hmore ⟨hnil, rfl⟩]
                      rfl
termination_by (links, names.length)

theorem find_notFound (h : Prunes fs fs') (hfound : fs.find .entry p = .error .notFound) :
    fs'.find .entry p = .error .notFound := by
  rw [find_eq_notFound, locate_eq] at hfound ⊢
  rw [h.baseStart?]
  by_cases hnul : p.bytes.contains 0 = true
  · rwa [if_pos hnul] at hfound ⊢
  rw [if_neg hnul] at hfound ⊢
  by_cases hnil : p.bytes = []
  · rwa [if_pos hnil] at hfound ⊢
  rw [if_neg hnil] at hfound ⊢
  by_cases hlong : pathLengthLimit ≤ p.bytes.length
  · rwa [if_pos hlong] at hfound ⊢
  rw [if_neg hlong] at hfound ⊢
  cases hs : fs.baseStart? p.base with
  | none => rfl
  | some start =>
      rw [hs] at hfound
      exact h.misses_walk hfound

end Prunes

/-! ## What changes -/

/-- What writing files at `W` and removing some at `D` does to a tree: only there files come and go,
and directories are made on the way to what is written. -/
structure Changed (W D : List Path) (fs fs' : FileSystem) : Prop extends Keeps fs fs' where
  files : ∀ loc content, (∀ p ∈ W ++ D, fs'.locate .entry p ≠ .ok loc) →
    (fs'.get? loc = some (.file content) ↔ fs.get? loc = some (.file content))
  made : ∀ loc, fs'.get? loc = some .dir → fs.get? loc = some .dir ∨
    ∃ p ∈ W, ∃ q, p.LiesIn q ∧ fs'.find .entry q = .ok (loc, .dir)

namespace Changed

theorem refl (W D : List Path) (fs : FileSystem) : Changed W D fs fs :=
  ⟨.refl fs, fun _ _ _ => .rfl, fun _ h => .inl h⟩

theorem trans (h : Changed W D fs fs') (h' : Changed W D fs' fs'') : Changed W D fs fs'' where
  toKeeps := h.toKeeps.trans h'.toKeeps
  files loc content hloc :=
    (h'.files loc content hloc).trans (h.files loc content fun p hp hbefore =>
      hloc p hp (h'.toKeeps.locate hbefore))
  made loc hd := by
    rcases h'.made loc hd with hd | hmade
    · rcases h.made loc hd with hd | ⟨p, hp, q, hq, hfound⟩
      · exact .inl hd
      · exact .inr ⟨p, hp, q, hq, h'.toKeeps.find_dir hfound⟩
    · exact .inr hmade

theorem of_makes (h : Makes p fs fs') (hp : p ∈ W) : Changed W D fs fs' where
  toKeeps := h.toKeeps
  files loc content _ := by
    refine ⟨fun he => ?_, h.kept loc _⟩
    rcases h.new loc _ he with he | ⟨hdir, -⟩
    · exact he
    · cases hdir
  made loc hd := by
    rcases h.new loc _ hd with hd | ⟨-, q, hq, hfound⟩
    · exact .inl hd
    · exact .inr ⟨p, hp, q, hq, hfound⟩

/-- The entry that one of the paths leads to is changed. -/
theorem of_get? {e? : Option Entry} (hk : Keeps fs fs') (hloc : fs'.locate .entry p = .ok loc)
    (hp : p ∈ W ++ D) (he : e? ≠ some .dir)
    (hget : ∀ l, fs'.get? l = if l = loc then e? else fs.get? l) : Changed W D fs fs' where
  toKeeps := hk
  files l content hl := by
    rw [hget, if_neg]
    rintro rfl
    exact hl p hp hloc
  made l hd := by
    rw [hget] at hd
    split at hd
    · exact absurd hd he
    · exact .inl hd

theorem fillFile (h : fs.Clear root) (hp : root.Extends names p) (hmem : p ∈ W)
    (hw : fs.fillFile p content = .ok fs') : Changed W D fs fs' := by
  obtain ⟨loc, hloc, -⟩ := fillFile_ok hw
  obtain ⟨home, hr⟩ := h.reached hp hloc
  obtain ⟨hloc', hk, hget⟩ := hr.fillFile hp hw
  exact .of_get? hk (hr.locate_keeps hp hloc' hk nofun) (List.mem_append_left D hmem)
    (by nofun) hget

theorem putFile (h : fs.Clear root) (hp : root.Extends names p) (hmem : p ∈ W)
    (breakage? : Option Breakage) (content : ByteArray) :
    Changed W D fs (fs.putFile breakage? p content).1 := by
  have hmakes := Makes.makeParent fs p
  have hmade : Changed W D fs (fs.makeParent p).1 := of_makes hmakes hmem
  rcases putFile_leaves fs breakage? p content with heq | ⟨c, hfill⟩
  · rw [heq]
    exact hmade
  · exact hmade.trans (fillFile (h.keeps hmakes.toKeeps) hp hmem hfill)

theorem dropFile (h : fs.Clear root) (hp : root.Extends names p) (hmem : p ∈ D) :
    Changed W D fs (fs.dropFile p).1 := by
  unfold FileSystem.dropFile
  split
  · rename_i hr
    obtain ⟨loc, e, hfound, -, -⟩ := removeFile_ok hr
    obtain ⟨hloc, -⟩ := of_find hfound
    obtain ⟨home, hreached⟩ := h.reached hp hloc
    obtain ⟨hk, hget⟩ := hreached.removeFile hp hr
    obtain rfl := hreached.locate hp hloc
    exact .of_get? hk (hk.locate hloc) (List.mem_append_right W hmem) (by nofun) hget
  · exact .refl W D fs
  · exact .refl W D fs

end Changed

/-! ## Removed files -/

/-- Whether there is a file at a path. -/
def holdsFile (fs : FileSystem) (p : Path) : Bool :=
  match fs.find .entry p with
  | .ok (_, .file _) => true
  | _ => false

theorem holdsFile_iff :
    fs.holdsFile p = true ↔ ∃ loc content, fs.find .entry p = .ok (loc, .file content) := by
  unfold holdsFile
  split
  · simp [*]
  · rename_i hne
    exact ⟨nofun, fun ⟨loc, content, h⟩ => absurd h (hne loc content)⟩

theorem holdsFile_of_notFound (h : fs.find .entry p = .error .notFound) :
    fs.holdsFile p = false := by
  unfold holdsFile
  rw [h]

theorem find_of_removeFile_error (h : fs.removeFile p = .error .notFound) :
    fs.find .entry p = .error .notFound := by
  unfold removeFile at h
  split at h
  · rename_i hfound
    cases h
    exact hfound
  · cases h
  · cases h

theorem holdsFile_mono (h : fs.Reached root home) (hk : Keeps fs fs') (hq : root.Extends names' q)
    (hne : names' ≠ names) (hget : ∀ l, l ≠ home ++ names → fs'.get? l = fs.get? l)
    (hholds : fs.holdsFile q = true) : fs'.holdsFile q = true := by
  obtain ⟨loc, content, hfound⟩ := holdsFile_iff.mp hholds
  obtain ⟨hloc, he⟩ := of_find hfound
  obtain rfl := h.locate hq hloc
  have hne' : home ++ names' ≠ home ++ names := fun heq => hne (List.append_cancel_left heq)
  exact holdsFile_iff.mpr ⟨_, content, find_eq (hk.locate hloc) ((hget _ hne').trans he)⟩

/-- Ways are the same with the file that was removed. -/
theorem Reached.keeps_of_removed (h : fs.Reached root home) (hk : Keeps fs fs')
    (hget : ∀ l, fs'.get? l = if l = home ++ names then none else fs.get? l) : Keeps fs' fs := by
  have hnone : fs'.get? (home ++ names) = none := (hget _).trans (if_pos rfl)
  have hdir : fs'.get? (home ++ names) ≠ some .dir := by simp [hnone]
  have hlink : ∀ target, fs.get? (home ++ names) ≠ some (.link target) := h.linkless.not_link
  refine .of_get? hdir (by simp [hnone]) hlink (fun l => ?_) hk.workingDirectory.symm
  split
  · rename_i hl
    rw [hl]
  · rename_i hl
    rw [hget, if_neg hl]

/-- A file is removed if there is one, and is not there afterwards. What other paths hold does not
change. -/
theorem dropFile_ok {gone : Bool} (h : fs.Clear root) (hp : root.Extends names p)
    (hdrop : fs.dropFile p = (fs', .ok gone)) :
    gone = fs.holdsFile p ∧ fs'.find .entry p = .error .notFound ∧
      ∀ q names', root.Extends names' q → q ≠ p → fs'.holdsFile q = fs.holdsFile q := by
  unfold FileSystem.dropFile at hdrop
  split at hdrop
  · rename_i fs₁ hr
    cases hdrop
    obtain ⟨loc, e, hfound, hdir, -⟩ := removeFile_ok hr
    obtain ⟨hloc, he⟩ := of_find hfound
    obtain ⟨home, hreached⟩ := h.reached hp hloc
    obtain ⟨hk, hget⟩ := hreached.removeFile hp hr
    obtain rfl := hreached.locate hp hloc
    have hback := hreached.keeps_of_removed hk hget
    refine ⟨?_, ?_, fun q names' hq hne => ?_⟩
    · cases e with
      | file content => exact (holdsFile_iff.mpr ⟨_, content, hfound⟩).symm
      | dir => exact absurd rfl hdir
      | link target => exact absurd he (hreached.linkless.not_link target)
    · rw [find_eq_notFound, hk.locate hloc]
      exact (hget _).trans (if_pos rfl)
    · have hnames : names' ≠ names := by
        rintro rfl
        exact hne (hq.eq.trans hp.eq.symm)
      have hother : ∀ l, l ≠ home ++ names → fs'.get? l = fs.get? l := fun l hl =>
        (hget l).trans (if_neg hl)
      rw [Bool.eq_iff_iff]
      exact ⟨holdsFile_mono (hk.reached hreached) hback hq hnames fun l hl => (hother l hl).symm,
        holdsFile_mono hreached hk hq hnames hother⟩
  · rename_i hr
    cases hdrop
    have hfound := find_of_removeFile_error hr
    exact ⟨(holdsFile_of_notFound hfound).symm, hfound, fun _ _ _ _ => rfl⟩
  · cases hdrop

theorem find_notFound_dropFile (h : fs.find .entry p = .error .notFound) (q : Path) :
    (fs.dropFile q).1.find .entry p = .error .notFound := by
  unfold FileSystem.dropFile
  split
  · rename_i hr
    exact (prunes_removeFile hr).find_notFound h
  · exact h
  · exact h

end FileSystem

end Codewright.Workspace
