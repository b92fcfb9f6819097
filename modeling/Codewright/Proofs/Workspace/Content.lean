import Codewright.Proofs.Workspace.Confinement

/-!
# What is written is read

A file that has been written at a path below the root is read there, until something is done at the
same path again. What is done at other paths does not matter, as long as there are no links below
the root.
-/

namespace Codewright.Workspace

namespace FileSystem

variable {fs fs' fs'' : FileSystem} {aim : Aim} {home loc : Location} {root p q : Path}
  {names : List Name} {content : ByteArray} {breakage? : Option Breakage}

/-! ## Workspaces clear of links -/

/-- There are no links at all, or none below the place that the root leads to. -/
def Clear (fs : FileSystem) (root : Path) : Prop :=
  fs.Linkless [] ∨ ∃ home, fs.Reached root home

namespace Clear

theorem keeps (h : fs.Clear root) (hk : Keeps fs fs') : fs'.Clear root :=
  h.imp hk.linkless fun ⟨home, hr⟩ => ⟨home, hk.reached hr⟩

/-- Where something below the root can be located the root has been reached. -/
theorem reached (h : fs.Clear root) (hp : root.Extends names p) (hloc : fs.locate aim p = .ok loc) :
    ∃ home, fs.Reached root home := by
  rcases h with hl | hr
  · obtain ⟨start, first, hstart, hw⟩ := FileSystem.walk_of_locate hloc
    obtain ⟨rfl, hne, -⟩ := hp
    rw [← List.append_assoc] at hw
    obtain ⟨links, home, hpasses⟩ := Passes.of_walk_append hne hw
    exact ⟨home, ⟨start, first, links, hstart, hpasses⟩, hl.below List.nil_prefix⟩
  · exact hr

end Clear

/-! ## Making directories -/

/-- Nothing that is there changes, and no links are made. -/
structure Adds (fs fs' : FileSystem) : Prop extends Keeps fs fs' where
  kept : ∀ loc e, fs.get? loc = some e → fs'.get? loc = some e

theorem Adds.refl (fs : FileSystem) : Adds fs fs :=
  ⟨.refl fs, fun _ _ h => h⟩

theorem Adds.trans (h : Adds fs fs') (h' : Adds fs' fs'') : Adds fs fs'' :=
  ⟨h.toKeeps.trans h'.toKeeps, fun loc e he => h'.kept loc e (h.kept loc e he)⟩

theorem adds_makeDir (h : fs.makeDir p = .ok fs') : Adds fs fs' := by
  obtain ⟨loc, -, hnone, hne, rfl⟩ := makeDir_ok h
  have hget : ∀ l, (fs.set loc .dir).get? l = if l = loc then some .dir else fs.get? l :=
    get?_set hne .dir
  refine ⟨.of_get? ?_ ?_ (fun _ h => by cases h) hget rfl, fun l e he => ?_⟩
  · simp [hnone]
  · simp [hnone]
  · rw [hget, if_neg, he]
    rintro rfl
    cases hnone.symm.trans he

/-- Only directories are new, and they lie on the way to `p`. -/
structure Makes (p : Path) (fs fs' : FileSystem) : Prop extends Adds fs fs' where
  new : ∀ loc e, fs'.get? loc = some e → fs.get? loc = some e ∨
    e = .dir ∧ ∃ q, p.LiesIn q ∧ fs'.find .entry q = .ok (loc, .dir)

namespace Makes

theorem refl (p : Path) (fs : FileSystem) : Makes p fs fs :=
  ⟨.refl fs, fun _ _ h => .inl h⟩

theorem trans (h : Makes p fs fs') (h' : Makes p fs' fs'') : Makes p fs fs'' where
  toAdds := h.toAdds.trans h'.toAdds
  new loc e he := by
    rcases h'.new loc e he with he | hnew
    · rcases h.new loc e he with he | ⟨rfl, q, hq, hfound⟩
      · exact .inl he
      · exact .inr ⟨rfl, q, hq, h'.toKeeps.find_dir hfound⟩
    · exact .inr hnew

theorem makeDir (hq : p.LiesIn q) (h : fs.makeDir q = .ok fs') : Makes p fs fs' where
  toAdds := adds_makeDir h
  new l e he := by
    have hkeeps := (adds_makeDir h).toKeeps
    obtain ⟨loc, hloc, -, hne, rfl⟩ := makeDir_ok h
    have hfound : (fs.set loc .dir).find .entry q = .ok (loc, .dir) :=
      find_eq (hkeeps.locate hloc) ((get?_set hne ..).trans (if_pos rfl))
    rw [get?_set hne] at he
    split at he
    · rename_i hl
      cases he
      exact .inr ⟨rfl, q, hq, hl ▸ hfound⟩
    · exact .inl he

theorem ensureDir (hq : p.LiesIn q) (fs : FileSystem) : Makes p fs (fs.ensureDir q).1 := by
  unfold FileSystem.ensureDir
  split
  · rename_i h
    exact makeDir hq h
  · exact .refl p fs

theorem makeDirsFrom (hq : p.LiesIn q) (fs : FileSystem) (depth : Nat) :
    Makes p fs (fs.makeDirsFrom depth q).1 := by
  induction depth generalizing fs q with
  | zero =>
      rw [FileSystem.makeDirsFrom]
      split
      · exact .refl p fs
      · exact ensureDir hq fs
  | succ depth ih =>
      rw [FileSystem.makeDirsFrom]
      split
      · exact .refl p fs
      · have h := ensureDir hq fs
        split
        · rename_i fs₁ dir heq hdir
          rw [heq] at h
          have h₁ := h.trans (ih (hq.further hdir) fs₁)
          split
          · rename_i heq₁
            rw [heq₁] at h₁
            exact h₁
          · rename_i heq₁
            rw [heq₁] at h₁
            exact h₁.trans (ensureDir hq _)
        · exact h

theorem makeParent (fs : FileSystem) (p : Path) : Makes p fs (fs.makeParent p).1 := by
  unfold FileSystem.makeParent
  split
  · exact .refl p fs
  · rename_i hdir
    exact makeDirsFrom (.parent hdir) fs _

end Makes

/-! ## Writing and removing -/

theorem Linkless.not_link (h : fs.Linkless home) (target : List UInt8) :
    fs.get? (home ++ names) ≠ some (.link target) :=
  h _ target (List.prefix_append ..)

/-- Filling a file changes the entry that the path leads to. -/
theorem Reached.fillFile (h : fs.Reached root home) (hp : root.Extends names p)
    (hw : fs.fillFile p content = .ok fs') :
    fs.locate .newFile p = .ok (home ++ names) ∧ Keeps fs fs' ∧
      ∀ loc, fs'.get? loc = if loc = home ++ names then some (.file content) else fs.get? loc := by
  obtain ⟨loc, hloc, hdir, rfl⟩ := fillFile_ok hw
  obtain rfl := h.locate hp hloc
  have hne : home ++ names ≠ [] := List.append_ne_nil_of_right_ne_nil home hp.ne_nil
  have hget : ∀ l, (fs.set (home ++ names) (.file content)).get? l =
      if l = home ++ names then some (.file content) else fs.get? l := get?_set hne _
  exact ⟨hloc, .of_get? hdir h.linkless.not_link (fun _ h => by cases h) hget rfl, hget⟩

/-- Removing a file removes the entry that the path leads to. -/
theorem Reached.removeFile (h : fs.Reached root home) (hp : root.Extends names p)
    (hr : fs.removeFile p = .ok fs') :
    Keeps fs fs' ∧ ∀ loc, fs'.get? loc = if loc = home ++ names then none else fs.get? loc := by
  unfold FileSystem.removeFile at hr
  split at hr
  · cases hr
  · cases hr
  · rename_i loc e hdir hfound
    cases hr
    obtain ⟨hloc, he⟩ := of_find hfound
    obtain rfl := h.locate hp hloc
    have hne : home ++ names ≠ [] := List.append_ne_nil_of_right_ne_nil home hp.ne_nil
    have hget : ∀ l, (fs.erase (home ++ names)).get? l =
        if l = home ++ names then none else fs.get? l := get?_erase hne
    refine ⟨.of_get? ?_ h.linkless.not_link (fun _ h => by cases h) hget rfl, hget⟩
    intro hd
    obtain rfl := Option.some.inj (he.symm.trans hd)
    exact hdir rfl

theorem Clear.fillFile (h : fs.Clear root) (hp : root.Extends names p)
    (hw : fs.fillFile p content = .ok fs') : fs'.Clear root := by
  obtain ⟨loc, hloc, -⟩ := fillFile_ok hw
  obtain ⟨home, hr⟩ := h.reached hp hloc
  exact h.keeps (hr.fillFile hp hw).2.1

theorem Clear.putFile (h : fs.Clear root) (hp : root.Extends names p)
    (breakage? : Option Breakage) (content : ByteArray) :
    (fs.putFile breakage? p content).1.Clear root := by
  have hmade := h.keeps (Makes.makeParent fs p).toKeeps
  rcases putFile_leaves fs breakage? p content with heq | ⟨c, hfill⟩
  · rw [heq]
    exact hmade
  · exact hmade.fillFile hp hfill

/-! ## Files that are there -/

/-- At a path below the root there is a file with this content. -/
def Stores (fs : FileSystem) (root p : Path) (content : ByteArray) : Prop :=
  ∃ home names, fs.Reached root home ∧ root.Extends names p ∧
    fs.locate .target p = .ok (home ++ names) ∧ fs.get? (home ++ names) = some (.file content)

namespace Stores

theorem readFile (h : fs.Stores root p content) : fs.readFile p = .ok content := by
  obtain ⟨home, names, -, -, hloc, he⟩ := h
  rw [FileSystem.readFile, find, hloc]
  dsimp only
  rw [he]

theorem find_entry (h : fs.Stores root p content) :
    ∃ loc, fs.find .entry p = .ok (loc, .file content) := by
  obtain ⟨home, names, hr, hp, hloc, he⟩ := h
  exact ⟨_, find_eq (hr.locate_keeps hp hloc (.refl fs) nofun) he⟩

theorem of_fillFile (h : fs.Clear root) (hp : root.Extends names p)
    (hw : fs.fillFile p content = .ok fs') : fs'.Stores root p content := by
  obtain ⟨loc, hloc, -⟩ := fillFile_ok hw
  obtain ⟨home, hr⟩ := h.reached hp hloc
  obtain ⟨hloc', hk, hget⟩ := hr.fillFile hp hw
  exact ⟨home, names, hk.reached hr, hp, hr.locate_target hp hloc' hk, by rw [hget, if_pos rfl]⟩

theorem of_putFile (h : fs.Clear root) (hp : root.Extends names p)
    (hput : fs.putFile breakage? p content = (fs', .ok ⟨⟩)) : fs'.Stores root p content := by
  have hmakes := h.keeps (Makes.makeParent fs p).toKeeps
  cases Put.of_putFile hput with
  | written _ hmade hfill =>
      rw [hmade] at hmakes
      exact .of_fillFile hmakes hp hfill

theorem adds (h : fs.Stores root p content) (ha : Adds fs fs') : fs'.Stores root p content := by
  obtain ⟨home, names, hr, hp, hloc, he⟩ := h
  exact ⟨home, names, ha.reached hr, hp, hr.locate_target hp hloc ha.toKeeps, ha.kept _ _ he⟩

/-- What is done to another entry does not matter. -/
theorem of_get? {e? : Option Entry} {names' : List Name} (h : fs.Stores root p content)
    (hq : root.Extends names' q) (hne : q ≠ p)
    (hget : ∀ home, fs.Reached root home → Keeps fs fs' ∧
      ∀ loc, fs'.get? loc = if loc = home ++ names' then e? else fs.get? loc) :
    fs'.Stores root p content := by
  obtain ⟨home, names, hr, hp, hloc, he⟩ := h
  obtain ⟨hk, hget⟩ := hget home hr
  refine ⟨home, names, hk.reached hr, hp, hr.locate_target hp hloc hk, ?_⟩
  rw [hget, if_neg, he]
  intro hnames
  obtain rfl := List.append_cancel_left hnames
  exact hne (hq.eq.trans hp.eq.symm)

theorem fillFile {old : ByteArray} (h : fs.Stores root p old) (hq : root.Extends names q)
    (hne : q ≠ p) (hw : fs.fillFile q content = .ok fs') : fs'.Stores root p old :=
  h.of_get? hq hne fun _ hr => (hr.fillFile hq hw).2

theorem putFile {old : ByteArray} (h : fs.Stores root p old) (hq : root.Extends names q)
    (hne : q ≠ p) (breakage? : Option Breakage) (content : ByteArray) :
    (fs.putFile breakage? q content).1.Stores root p old := by
  have hmade := h.adds (Makes.makeParent fs q).toAdds
  rcases putFile_leaves fs breakage? q content with heq | ⟨c, hfill⟩
  · rw [heq]
    exact hmade
  · exact hmade.fillFile hq hne hfill

theorem dropFile (h : fs.Stores root p content) (hq : root.Extends names q) (hne : q ≠ p) :
    (fs.dropFile q).1.Stores root p content := by
  unfold FileSystem.dropFile
  split
  · rename_i hr
    exact h.of_get? hq hne fun _ hreached => hreached.removeFile hq hr
  · exact h
  · exact h

end Stores

end FileSystem

end Codewright.Workspace
