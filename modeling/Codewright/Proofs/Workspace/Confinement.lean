import Codewright.Proofs.Workspace.Locate
import Codewright.Workspace.Change

/-!
# Staying in a workspace

As long as there are no links in a workspace, what is done at a path that the service can name
changes nothing but what lies below its root.
-/

namespace Codewright.Workspace

namespace FileSystem

variable {fs fs' fs'' : FileSystem} {aim : Aim} {dir home loc : Location} {root p : Path}
  {names : List Name} {content : ByteArray} {breakage? : Option Breakage}

/-! ## Workspaces without links -/

/-- The path leads to the directory `home`, and there are no links below that. -/
structure Rooted (fs : FileSystem) (root : Path) (home : Location) : Prop where
  found : fs.find .target root = .ok (home, .dir)
  linkless : fs.Linkless home

/-- From `fs` to `fs'` only what lies below `home` has changed. Directories stay, and links are not
made. -/
structure Within (home : Location) (fs fs' : FileSystem) : Prop where
  outside : ∀ loc, (∀ names, names ≠ [] → loc ≠ home ++ names) → fs'.get? loc = fs.get? loc
  dirs : ∀ loc, fs.get? loc = some .dir → fs'.get? loc = some .dir
  links : ∀ loc target, fs'.get? loc = some (.link target) → fs.get? loc = some (.link target)
  workingDirectory : fs'.workingDirectory = fs.workingDirectory

namespace Within

theorem refl (home : Location) (fs : FileSystem) : Within home fs fs :=
  ⟨fun _ _ => rfl, fun _ h => h, fun _ _ h => h, rfl⟩

theorem trans (h : Within home fs fs') (h' : Within home fs' fs'') : Within home fs fs'' where
  outside loc hloc := (h'.outside loc hloc).trans (h.outside loc hloc)
  dirs loc hd := h'.dirs loc (h.dirs loc hd)
  links loc target hl := h.links loc target (h'.links loc target hl)
  workingDirectory := h'.workingDirectory.trans h.workingDirectory

/-- One entry below `home` is changed, which is no directory and does not become a link. -/
theorem of_get? {e? : Option Entry} (hn : names ≠ []) (hd : fs.get? (home ++ names) ≠ some .dir)
    (he : ∀ target, e? ≠ some (.link target))
    (hget : ∀ loc, fs'.get? loc = if loc = home ++ names then e? else fs.get? loc)
    (hw : fs'.workingDirectory = fs.workingDirectory) : Within home fs fs' where
  outside loc hloc := by rw [hget, if_neg (hloc names hn)]
  dirs loc h := by
    rw [hget, if_neg, h]
    rintro rfl
    exact hd h
  links loc target h := by
    rw [hget] at h
    split at h
    · exact absurd h (he target)
    · exact h
  workingDirectory := hw

theorem set (hn : names ≠ []) (hd : fs.get? (home ++ names) ≠ some .dir) {e : Entry}
    (he : ∀ target, some e ≠ some (.link target)) : Within home fs (fs.set (home ++ names) e) :=
  .of_get? hn hd he (get?_set (List.append_ne_nil_of_right_ne_nil _ hn) e) rfl

theorem erase (hn : names ≠ []) (hd : fs.get? (home ++ names) ≠ some .dir) :
    Within home fs (fs.erase (home ++ names)) :=
  .of_get? hn hd (fun _ h => by cases h) (get?_erase (List.append_ne_nil_of_right_ne_nil _ hn)) rfl

/-- The links are the same, too, if there are none below `home`. -/
theorem keeps (h : Within home fs fs') (hl : fs.Linkless home) : Keeps fs fs' where
  dirs := h.dirs
  links loc target := by
    refine ⟨h.links loc target, fun hlink => (h.outside loc fun names _ heq => ?_).trans hlink⟩
    exact hl loc target (heq ▸ List.prefix_append ..) hlink
  workingDirectory := h.workingDirectory

end Within

/-- How a directory is reached. -/
theorem passes_of_find (h : fs.find .target p = .ok (home, .dir)) :
    ∃ start names links, fs.baseStart? p.base = some (start, names) ∧
      fs.Passes maxLinks start (names ++ p.names) links home := by
  obtain ⟨hloc, hdir⟩ := of_find h
  obtain ⟨start, names, hstart, hw⟩ := walk_of_locate hloc
  obtain ⟨links, hp⟩ := Passes.of_walk hw hdir
  exact ⟨start, names, links, hstart, hp⟩

namespace Rooted

theorem locate_root (h : fs.Rooted root home) :
    fs.locate .target root = .ok home ∧ fs.get? home = some .dir :=
  of_find h.found

theorem reached (h : fs.Rooted root home) : fs.Reached root home :=
  ⟨passes_of_find h.found, h.linkless⟩

/-- What proper names below the root lead to lies below the directory that the root leads to. -/
theorem locate (h : fs.Rooted root home) (hp : root.Extends names p)
    (hloc : fs.locate aim p = .ok loc) : loc = home ++ names :=
  h.reached.locate hp hloc

theorem within (h : fs.Rooted root home) (hw : Within home fs fs') : fs'.Rooted root home where
  found := by
    obtain ⟨hloc, hdir⟩ := h.locate_root
    obtain ⟨start, names, links, hstart, hp⟩ := passes_of_find h.found
    have hloc' : fs'.locate .target root = .ok home := by
      have hk := hw.keeps h.linkless
      rw [locate_congr hloc (hk.baseStart? hstart)]
      exact (hk.passes hp).walk_target
    rw [find, hloc']
    dsimp only
    rw [hw.dirs home hdir]
  linkless loc target hl he := h.linkless loc target hl (hw.links loc target he)

end Rooted

/-! ## Making directories -/

/-- A trimmed base starts where the base does. -/
theorem baseStart?_trimBase {base : List UInt8} (h : base ≠ [])
    (hs : fs.baseStart? base = some (dir, names)) :
    ∃ kept, fs.baseStart? (Path.trimBase base) = some (dir, kept) ∧
      ((∃ skipped, names = kept ++ skipped ∧ ∀ name ∈ skipped, name.Stays) ∨
        dir = [] ∧ kept = [[]]) := by
  obtain ⟨first, rest, skipped, hsplit, hskipped, htrim⟩ := Path.splitNames_trimBase h
  simp only [baseStart?, if_neg h, hsplit] at hs
  simp only [baseStart?, if_neg (Path.trimBase_ne_nil h)]
  rcases htrim with ⟨-, ht⟩ | ⟨hroot, ht⟩
  · rw [ht]
    cases first with
    | nil =>
        obtain ⟨rfl, rfl⟩ := Prod.mk.inj (Option.some.inj hs)
        exact ⟨rest, rfl, .inl ⟨skipped, rfl, hskipped⟩⟩
    | cons b first =>
        dsimp only at hs ⊢
        split at hs
        · obtain ⟨rfl, rfl⟩ := Prod.mk.inj (Option.some.inj hs)
          rename_i hd
          rw [if_pos hd]
          exact ⟨_, rfl, .inl ⟨skipped, rfl, hskipped⟩⟩
        · cases hs
  · rw [ht]
    obtain ⟨rfl, rfl⟩ := List.cons.inj hroot
    obtain ⟨rfl, -⟩ := Prod.mk.inj (Option.some.inj hs)
    exact ⟨_, rfl, .inr ⟨rfl, rfl⟩⟩

/-- Nothing can be made at a path, and not because something above it is missing. -/
def Taken (fs : FileSystem) (p : Path) : Prop :=
  p.bytes = [] ∨ ∃ e, fs.makeDir p = .error e ∧ e ≠ .notFound

theorem taken_of_walk (hs : fs.baseStart? p.base = some (dir, names))
    (hw : fs.walk .entry maxLinks dir (names ++ p.names) = .ok loc)
    (he : (fs.get? loc).isSome = true) : fs.Taken p := by
  by_cases hnil : p.bytes = []
  · exact .inl hnil
  have hloc : fs.locate .entry p = .ok loc ∨
      ∃ e, fs.locate .entry p = .error e ∧ e ≠ .notFound := by
    rw [locate_eq, if_neg hnil, hs]
    dsimp only
    rw [hw]
    split
    · exact .inr ⟨.nulInName, rfl, nofun⟩
    · split
      · exact .inr ⟨.nameTooLong, rfl, nofun⟩
      · exact .inl rfl
  rw [Taken, makeDir]
  rcases hloc with hloc | ⟨e, hloc, hne⟩
  · rw [hloc]
    dsimp only
    rw [if_pos he]
    exact .inr ⟨.alreadyExists, rfl, nofun⟩
  · rw [hloc]
    exact .inr ⟨e, rfl, hne⟩

/-- Above what is there nothing is made. -/
theorem Taken.makeDirsFrom (h : fs.Taken p) (depth : Nat) : (fs.makeDirsFrom depth p).1 = fs := by
  rcases h with hnil | ⟨e, he, hne⟩
  · cases depth with
    | zero | succ => rw [FileSystem.makeDirsFrom, if_pos hnil]
  · obtain ⟨r, hr, hfound⟩ : ∃ r, fs.ensureDir p = (fs, r) ∧ r ≠ some .notFound := by
      rw [ensureDir, he]
      refine ⟨_, rfl, ?_⟩
      split
      · nofun
      · exact fun h => hne (Option.some.inj h)
    cases depth with
    | zero =>
        rw [FileSystem.makeDirsFrom, hr]
        split <;> rfl
    | succ depth =>
        rw [FileSystem.makeDirsFrom, hr]
        split
        · rfl
        · split
          · rename_i heq _
            exact absurd (Prod.mk.inj heq).2 hfound
          · rfl

theorem taken_of_find (h : fs.find .target p = .ok (home, .dir)) : fs.Taken p := by
  obtain ⟨start, names, links, hstart, hp⟩ := passes_of_find h
  rw [← List.append_nil (names ++ p.names)] at hp
  obtain ⟨loc, hw, he⟩ := hp.walk_entry nofun (of_find h).2
  exact taken_of_walk hstart hw he

theorem base_ne_nil_of_find {e : Entry} (h : fs.find aim p = .ok (loc, e)) (hn : p.names = []) :
    p.base ≠ [] := by
  intro hnil
  have hbytes : p.bytes = [] := by rw [Path.bytes, if_pos hn, hnil]
  have hloc := (of_find h).1
  rw [locate_eq, hbytes] at hloc
  cases hloc

/-- The directory that holds what lies directly below a path without names. -/
theorem taken_trimBase (h : fs.find .target p = .ok (home, .dir)) (hn : p.names = []) :
    fs.Taken ⟨Path.trimBase p.base, []⟩ := by
  obtain ⟨start, names, links, hstart, hp⟩ := passes_of_find h
  rw [hn, List.append_nil] at hp
  obtain ⟨kept, hkept, ⟨skipped, rfl, hs⟩ | ⟨rfl, rfl⟩⟩ :=
    baseStart?_trimBase (base_ne_nil_of_find h hn) hstart
  · obtain ⟨loc, hw, he⟩ := hp.walk_entry hs (of_find h).2
    exact taken_of_walk hkept ((List.append_nil kept).symm ▸ hw) he
  · exact taken_of_walk hkept (by rw [List.append_nil, walk_stays (.inl rfl), walk]) rfl

namespace Rooted

theorem taken_or_extends (h : fs.Rooted root home) (hp : root.Holds p) :
    fs.Taken p ∨ ∃ names, root.Extends names p := by
  cases hp with
  | root => exact .inl (taken_of_find h.found)
  | trimmed hn => exact .inl (taken_trimBase h.found hn)
  | below hp => exact .inr ⟨_, hp⟩

end Rooted

/-! ## Changes -/

/-- A directory is made where nothing was. -/
theorem makeDir_ok (h : fs.makeDir p = .ok fs') :
    ∃ loc, fs.locate .entry p = .ok loc ∧ fs.get? loc = none ∧ loc ≠ [] ∧
      fs' = fs.set loc .dir := by
  unfold makeDir at h
  split at h
  · cases h
  · rename_i loc hloc
    split at h
    · cases h
    · rename_i hsome
      cases h
      have hnone : fs.get? loc = none := by simpa using hsome
      refine ⟨loc, hloc, hnone, ?_, rfl⟩
      rintro rfl
      cases hnone

/-- A file is filled where the path leads, unless there is a directory. -/
theorem fillFile_ok (h : fs.fillFile p content = .ok fs') :
    ∃ loc, fs.locate .newFile p = .ok loc ∧ fs.get? loc ≠ some .dir ∧
      fs' = fs.set loc (.file content) := by
  unfold fillFile at h
  split at h
  · cases h
  · rename_i loc hloc
    split at h
    · cases h
    · rename_i hdir
      cases h
      exact ⟨loc, hloc, hdir, rfl⟩

/-- Whether a file can be filled does not depend on what it is filled with. -/
theorem fillFile_error {e : IoError} (h : fs.fillFile p content = .error e) (other : ByteArray) :
    fs.fillFile p other = .error e := by
  unfold fillFile at h ⊢
  split at h
  · exact h
  · split at h
    · exact h
    · cases h

/-- What writing a file and the directories it needs can come to. -/
inductive Put (fs : FileSystem) (breakage? : Option Breakage) (p : Path) (content : ByteArray) :
    FileSystem → Except ChangeError Unit → Prop where
  | noDirectory {made : FileSystem} {e : ChangeError} : fs.makeParent p = (made, some e) →
      Put fs breakage? p content made (.error e)
  | notOpened {made : FileSystem} {cause : IoError} : fs.makeParent p = (made, none) →
      made.fillFile p (arrived breakage? content) = .error cause →
      Put fs breakage? p content made (.error ⟨p, cause⟩)
  | brokenOff {made fs' : FileSystem} {b : Breakage} : breakage? = some b →
      fs.makeParent p = (made, none) → made.fillFile p (content.extract 0 b.written) = .ok fs' →
      Put fs breakage? p content fs' (.error ⟨p, b.cause⟩)
  | written {made fs' : FileSystem} : breakage? = none → fs.makeParent p = (made, none) →
      made.fillFile p content = .ok fs' → Put fs breakage? p content fs' (.ok ⟨⟩)

theorem put_putFile (fs : FileSystem) (breakage? : Option Breakage) (p : Path)
    (content : ByteArray) :
    Put fs breakage? p content (fs.putFile breakage? p content).1
      (fs.putFile breakage? p content).2 := by
  unfold putFile writeFile
  rcases hmade : fs.makeParent p with ⟨made, _ | e⟩
  · dsimp only
    cases hfill : made.fillFile p (arrived breakage? content) with
    | error cause => exact .notOpened hmade hfill
    | ok fs' =>
        cases breakage? with
        | none => exact .written rfl hmade hfill
        | some b => exact .brokenOff rfl hmade hfill
  · exact .noDirectory hmade

theorem Put.of_putFile {res : Except ChangeError Unit}
    (h : fs.putFile breakage? p content = (fs', res)) : Put fs breakage? p content fs' res := by
  have hput := put_putFile fs breakage? p content
  rwa [h] at hput

/-- Whatever it comes to, directories have been made and perhaps the file has been filled. -/
theorem putFile_leaves (fs : FileSystem) (breakage? : Option Breakage) (p : Path)
    (content : ByteArray) :
    (fs.putFile breakage? p content).1 = (fs.makeParent p).1 ∨
      ∃ c, (fs.makeParent p).1.fillFile p c = .ok (fs.putFile breakage? p content).1 := by
  rcases h : fs.putFile breakage? p content with ⟨fs', res⟩
  cases Put.of_putFile h with
  | noDirectory hmade | notOpened hmade _ =>
      rw [hmade]
      exact .inl rfl
  | brokenOff _ hmade hfill | written _ hmade hfill =>
      rw [hmade]
      exact .inr ⟨_, hfill⟩

namespace Rooted

theorem within_makeDir (h : fs.Rooted root home) (hp : root.Extends names p)
    (hm : fs.makeDir p = .ok fs') : Within home fs fs' := by
  obtain ⟨loc, hloc, hnone, -, rfl⟩ := makeDir_ok hm
  obtain rfl := h.locate hp hloc
  exact .set hp.ne_nil (by simp [hnone]) nofun

theorem within_ensureDir (h : fs.Rooted root home) (hp : root.Extends names p) :
    Within home fs (fs.ensureDir p).1 := by
  unfold ensureDir
  split
  · rename_i fs' hm
    exact h.within_makeDir hp hm
  · exact .refl home fs

/-- Going up ends at the root, which is there. -/
theorem within_makeDirsFrom (h : fs.Rooted root home) (hp : root.Holds p) (depth : Nat) :
    Within home fs (fs.makeDirsFrom depth p).1 := by
  induction depth generalizing fs p with
  | zero =>
      rcases h.taken_or_extends hp with ht | ⟨names, hp⟩
      · rw [ht.makeDirsFrom]
        exact .refl home fs
      · rw [makeDirsFrom]
        split
        · exact .refl home fs
        · exact h.within_ensureDir hp
  | succ depth ih =>
      rcases h.taken_or_extends hp with ht | ⟨names, hp⟩
      · rw [ht.makeDirsFrom]
        exact .refl home fs
      · rw [makeDirsFrom]
        split
        · exact .refl home fs
        · have hw := h.within_ensureDir hp
          split
          · rename_i fs₁ dir heq hdir
            rw [heq] at hw
            have hw₁ := hw.trans (ih (h.within hw) (hp.parent? hdir))
            split
            · rename_i heq₁
              rw [heq₁] at hw₁
              exact hw₁
            · rename_i heq₁
              rw [heq₁] at hw₁
              exact hw₁.trans ((h.within hw₁).within_ensureDir hp)
          · exact hw

theorem within_makeParent (h : fs.Rooted root home) (hp : root.Extends names p) :
    Within home fs (fs.makeParent p).1 := by
  unfold makeParent
  split
  · exact .refl home fs
  · rename_i dir hdir
    exact h.within_makeDirsFrom (hp.parent? hdir) _

theorem within_fillFile (h : fs.Rooted root home) (hp : root.Extends names p)
    (hw : fs.fillFile p content = .ok fs') : Within home fs fs' := by
  obtain ⟨loc, hloc, hdir, rfl⟩ := fillFile_ok hw
  obtain rfl := h.locate hp hloc
  exact .set hp.ne_nil hdir nofun

/-- Writing a file below the root changes nothing else but what lies below the root. -/
theorem within_putFile (h : fs.Rooted root home) (hp : root.Extends names p)
    (breakage? : Option Breakage) (content : ByteArray) :
    Within home fs (fs.putFile breakage? p content).1 := by
  have hmade := h.within_makeParent hp
  rcases putFile_leaves fs breakage? p content with heq | ⟨c, hfill⟩
  · rw [heq]
    exact hmade
  · exact hmade.trans ((h.within hmade).within_fillFile hp hfill)

theorem within_removeFile (h : fs.Rooted root home) (hp : root.Extends names p)
    (hr : fs.removeFile p = .ok fs') : Within home fs fs' := by
  unfold removeFile at hr
  split at hr
  · cases hr
  · cases hr
  · rename_i loc e hdir hfound
    cases hr
    obtain ⟨hloc, he⟩ := of_find hfound
    obtain rfl := h.locate hp hloc
    refine .erase hp.ne_nil fun hd => ?_
    obtain rfl := Option.some.inj (he.symm.trans hd)
    exact hdir rfl

/-- Removing a file below the root changes nothing else but what lies below the root. -/
theorem within_dropFile (h : fs.Rooted root home) (hp : root.Extends names p) :
    Within home fs (fs.dropFile p).1 := by
  unfold dropFile
  split
  · rename_i fs' hr
    exact h.within_removeFile hp hr
  · exact .refl home fs
  · exact .refl home fs

end Rooted

end FileSystem

end Codewright.Workspace
