import Codewright.Proofs.Workspace.Walk

/-!
# Where paths lead

A path is followed from the directory where its base starts. Changes that leave directories and
links alone leave the ways through them as they are.
-/

namespace Codewright.Workspace

namespace FileSystem

variable {fs fs' fs'' : FileSystem} {aim : Aim} {links links' : Nat} {dir home loc : Location}
  {root p q : Path} {name : Name} {names rest : List Name}

/-! ## Where paths start -/

/-- The directory where a base starts, and its names from there. -/
def baseStart? (fs : FileSystem) (base : List UInt8) : Option (Location × List Name) :=
  match if base = [] then [] else Path.splitNames base with
  | [] :: names => some ([], names)
  | names => if fs.isDirAt fs.workingDirectory then some (fs.workingDirectory, names) else none

theorem locate_eq (fs : FileSystem) (aim : Aim) (p : Path) :
    fs.locate aim p =
      if p.bytes.contains 0 then .error .nulInName
      else if p.bytes = [] then .error .notFound
      else if pathLengthLimit ≤ p.bytes.length then .error .nameTooLong
      else
        match fs.baseStart? p.base with
        | some (start, names) => fs.walk aim maxLinks start (names ++ p.names)
        | none => .error .notFound := by
  unfold locate baseStart?
  dsimp only
  congr 3
  match if p.base = [] then [] else Path.splitNames p.base with
  | [] :: names => rfl
  | [] | (_ :: _) :: _ => cases fs.isDirAt fs.workingDirectory <;> rfl

/-- A path that is not ruled out by how it is written. -/
structure Accepts (p : Path) : Prop where
  no_nul : 0 ∉ p.bytes
  ne_nil : p.bytes ≠ []
  short : p.bytes.length < pathLengthLimit

theorem Accepts.shorten (h : Accepts p) (hq : q.bytes <+: p.bytes) (hne : q.bytes ≠ []) :
    Accepts q where
  no_nul hnul := h.no_nul (hq.subset hnul)
  ne_nil := hne
  short := Nat.lt_of_le_of_lt hq.length_le h.short

theorem Accepts.of_locate (h : fs.locate aim p = .ok loc) : Accepts p := by
  rw [locate_eq] at h
  split at h
  · cases h
  split at h
  · cases h
  split at h
  · cases h
  rename_i hnul hne hlong
  exact ⟨by simpa using hnul, hne, Nat.not_le.mp hlong⟩

theorem Accepts.locate (h : Accepts p) (hs : fs.baseStart? p.base = some (dir, names)) (aim : Aim) :
    fs.locate aim p = fs.walk aim maxLinks dir (names ++ p.names) := by
  rw [locate_eq, if_neg (by simpa using h.no_nul), if_neg h.ne_nil, if_neg (Nat.not_le.mpr h.short),
    hs]

/-- Where a path leads is looked up in the same way if it is not ruled out beforehand. -/
theorem locate_congr {aim' : Aim} (h : fs.locate aim p = .ok loc)
    (hs : fs'.baseStart? p.base = some (dir, names)) :
    fs'.locate aim' p = fs'.walk aim' maxLinks dir (names ++ p.names) :=
  (Accepts.of_locate h).locate hs aim'

theorem walk_of_locate (h : fs.locate aim p = .ok loc) :
    ∃ start names, fs.baseStart? p.base = some (start, names) ∧
      fs.walk aim maxLinks start (names ++ p.names) = .ok loc := by
  rw [locate_eq] at h
  split at h
  · cases h
  · split at h
    · cases h
    · split at h
      · cases h
      · split at h
        · rename_i start names hs
          exact ⟨start, names, hs, h⟩
        · cases h

theorem of_find {e : Entry} (h : fs.find aim p = .ok (loc, e)) :
    fs.locate aim p = .ok loc ∧ fs.get? loc = some e := by
  unfold find at h
  split at h
  · cases h
  · rename_i hloc
    split at h
    · cases h
    · rename_i he
      obtain ⟨rfl, rfl⟩ := Prod.mk.inj (Except.ok.inj h)
      exact ⟨hloc, he⟩

theorem find_eq {e : Entry} (hloc : fs.locate aim p = .ok loc) (he : fs.get? loc = some e) :
    fs.find aim p = .ok (loc, e) := by
  rw [find, hloc]
  dsimp only
  rw [he]

theorem not_rulesOutFile (haim : aim ≠ .newFile) (rest : List Name) : ¬ RulesOutFile aim rest :=
  fun h => haim h.1

/-- Behind the last name there may be anything but a link. -/
theorem walk_last (h : name.IsProper) (hlength : name.length ≤ maxNameLength)
    (hl : ∀ target, fs.get? (dir ++ [name]) ≠ some (.link target)) :
    fs.walk aim links dir [name] = .ok (dir ++ [name]) := by
  rw [walk_proper h hlength fun hrest => hrest.2.1 rfl]
  cases he : fs.get? (dir ++ [name]) with
  | none => rfl
  | some e =>
      cases e with
      | file => rfl
      | dir => simp [FileSystem.walk]
      | link target => exact absurd he (hl target)

/-- Where names lead through directories, their path leads, too. -/
theorem Accepts.locate_target (h : Accepts p) (hs : fs.baseStart? p.base = some (dir, names))
    (hp : fs.Passes maxLinks dir (names ++ p.names) links loc) : fs.locate .target p = .ok loc := by
  rw [h.locate hs]
  exact hp.walk_target

/-- What is not a link is where its directory and its name say. -/
theorem Accepts.locate_child (h : Accepts (p.child name))
    (hs : fs.baseStart? p.base = some (dir, names))
    (hp : fs.Passes maxLinks dir (names ++ p.names) links loc) (hname : name.IsProper)
    (hlength : name.length ≤ maxNameLength)
    (hl : ∀ target, fs.get? (loc ++ [name]) ≠ some (.link target)) (aim : Aim) :
    fs.locate aim (p.child name) = .ok (loc ++ [name]) := by
  rw [h.locate hs, Path.child, ← List.append_assoc,
    hp.walk_append (.inr ⟨name, .head _, hname.ne_nil⟩)]
  exact walk_last hname hlength hl

/-! ## Changes that keep the ways -/

/-- Directories stay, links are the same, and relative paths start where they did. -/
structure Keeps (fs fs' : FileSystem) : Prop where
  dirs : ∀ loc, fs.get? loc = some .dir → fs'.get? loc = some .dir
  links : ∀ loc target, fs'.get? loc = some (.link target) ↔ fs.get? loc = some (.link target)
  workingDirectory : fs'.workingDirectory = fs.workingDirectory

namespace Keeps

theorem refl (fs : FileSystem) : Keeps fs fs :=
  ⟨fun _ h => h, fun _ _ => .rfl, rfl⟩

theorem trans (h : Keeps fs fs') (h' : Keeps fs' fs'') : Keeps fs fs'' where
  dirs loc hd := h'.dirs loc (h.dirs loc hd)
  links loc target := (h'.links loc target).trans (h.links loc target)
  workingDirectory := h'.workingDirectory.trans h.workingDirectory

/-- One entry is changed, which is neither a directory nor a link and does not become a link. -/
theorem of_get? {e? : Option Entry} (hd : fs.get? loc ≠ some .dir)
    (hl : ∀ target, fs.get? loc ≠ some (.link target)) (he : ∀ target, e? ≠ some (.link target))
    (hget : ∀ l, fs'.get? l = if l = loc then e? else fs.get? l)
    (hw : fs'.workingDirectory = fs.workingDirectory) : Keeps fs fs' where
  dirs l h := by
    rw [hget, if_neg, h]
    rintro rfl
    exact hd h
  links l target := by
    rw [hget]
    split
    · rename_i h
      subst h
      exact ⟨fun h => absurd h (he target), fun h => absurd h (hl target)⟩
    · rfl
  workingDirectory := hw

theorem linkless (h : Keeps fs fs') (hl : fs.Linkless dir) : fs'.Linkless dir :=
  fun loc target hd he => hl loc target hd ((h.links loc target).mp he)

theorem isDirAt (h : Keeps fs fs') (hd : fs.isDirAt loc = true) : fs'.isDirAt loc = true := by
  unfold FileSystem.isDirAt at hd ⊢
  split at hd
  · rename_i hdir
    rw [h.dirs loc hdir]
  · cases hd

theorem baseStart? (h : Keeps fs fs') {base : List UInt8}
    (hs : fs.baseStart? base = some (dir, names)) : fs'.baseStart? base = some (dir, names) := by
  unfold FileSystem.baseStart? at hs ⊢
  split at hs
  · exact hs
  · split at hs
    · rename_i hd
      rw [h.workingDirectory, if_pos (h.isDirAt hd)]
      exact hs
    · cases hs

theorem passes (h : Keeps fs fs') (hp : fs.Passes links dir names links' loc) :
    fs'.Passes links dir names links' loc := by
  induction hp with
  | nil => exact .nil
  | stay hstays _ ih => exact .stay hstays ih
  | up _ ih => exact .up ih
  | into hproper hlength hdir _ ih => exact .into hproper hlength (h.dirs _ hdir) ih
  | follow hproper hlength hlink _ ih =>
      exact .follow hproper hlength ((h.links _ _).mpr hlink) ih

/-- Proper names lead to the same place afterwards. -/
theorem walk {aim' : Aim} (h : Keeps fs fs') (haim : aim' ≠ .newFile) (hl : fs.Linkless dir)
    (hn : ∀ name ∈ names, name.IsProper) (hw : fs.walk aim links dir names = .ok loc) :
    fs'.walk aim' links dir names = .ok loc := by
  replace hw := Walks.of_walk hw
  induction hw with
  | nil => rw [FileSystem.walk]
  | stay hstays => exact absurd hstays (hn _ (.head _)).not_stays
  | up => exact absurd rfl (hn _ (.head _)).ne_up
  | @into links dir loc name rest hproper hlength _ hdir _ ih =>
      rw [walk_proper hproper hlength (not_rulesOutFile haim rest), h.dirs _ hdir]
      exact ih (hl.below (List.prefix_append ..)) fun n hn' => hn n (.tail _ hn')
  | follow _ _ _ hlink => exact absurd hlink (hl _ _ (List.prefix_append ..))
  | last hproper hlength =>
      exact walk_last hproper hlength fun target =>
        h.linkless hl _ target (List.prefix_append ..)

/-- Names that lead somewhere lead there afterwards. -/
theorem walk_same (h : Keeps fs fs') (hw : fs.walk aim links dir names = .ok loc) :
    fs'.walk aim links dir names = .ok loc := by
  refine Walks.walk ?_
  replace hw := Walks.of_walk hw
  induction hw with
  | nil => exact .nil
  | stay hstays _ ih => exact .stay hstays ih
  | up _ ih => exact .up ih
  | into hproper hlength hrest hdir _ ih => exact .into hproper hlength hrest (h.dirs _ hdir) ih
  | follow hproper hlength hrest hlink hmore _ ih =>
      exact .follow hproper hlength hrest ((h.links _ _).mpr hlink) hmore ih
  | @last links dir name hproper hlength _ hlink =>
      -- Behind the last name there may be a directory now.
      by_cases hdir : fs'.get? (dir ++ [name]) = some .dir
      · exact .into hproper hlength (fun hrest => hrest.2.1 rfl) hdir .nil
      · exact .last hproper hlength hdir fun target he => hlink target ((h.links _ _).mp he)

theorem locate (h : Keeps fs fs') (hloc : fs.locate aim p = .ok loc) :
    fs'.locate aim p = .ok loc := by
  obtain ⟨start, names, hstart, hw⟩ := walk_of_locate hloc
  rw [locate_congr hloc (h.baseStart? hstart)]
  exact h.walk_same hw

theorem find_dir (h : Keeps fs fs') (hfound : fs.find aim p = .ok (loc, .dir)) :
    fs'.find aim p = .ok (loc, .dir) := by
  obtain ⟨hloc, hd⟩ := of_find hfound
  exact find_eq (h.locate hloc) (h.dirs loc hd)

end Keeps

/-! ## Ways to a workspace -/

/-- The path leads through directories and links to `home`, and there are no links below that. -/
structure Reached (fs : FileSystem) (root : Path) (home : Location) : Prop where
  passes : ∃ start names links, fs.baseStart? root.base = some (start, names) ∧
    fs.Passes maxLinks start (names ++ root.names) links home
  linkless : fs.Linkless home

theorem Keeps.reached (h : Keeps fs fs') (hr : fs.Reached root home) : fs'.Reached root home := by
  obtain ⟨start, names, links, hstart, hp⟩ := hr.passes
  exact ⟨⟨start, names, links, h.baseStart? hstart, h.passes hp⟩, h.linkless hr.linkless⟩

namespace Reached

theorem walk_of_locate (h : fs.Reached root home) (hp : root.Extends names p)
    (hloc : fs.locate aim p = .ok loc) :
    ∃ links, fs.walk aim links home names = .ok loc ∧
      ∀ fs' : FileSystem, Keeps fs fs' → ∀ aim',
        fs'.locate aim' p = fs'.walk aim' links home names := by
  obtain ⟨start, first, links, hstart, hpasses⟩ := h.passes
  obtain ⟨rfl, hne, hproper⟩ := hp
  obtain ⟨name, rest, rfl⟩ := List.exists_cons_of_ne_nil hne
  have hname : ∃ n ∈ name :: rest, n ≠ [] := ⟨name, .head _, (hproper name (.head _)).ne_nil⟩
  have hways (fs' : FileSystem) (hk : Keeps fs fs') (aim' : Aim) :
      fs'.locate aim' ⟨root.base, root.names ++ name :: rest⟩ =
        fs'.walk aim' links home (name :: rest) := by
    rw [locate_congr hloc (hk.baseStart? hstart), ← List.append_assoc]
    exact (hk.passes hpasses).walk_append (.inr hname)
  exact ⟨links, (hways fs (.refl fs) aim).symm.trans hloc, hways⟩

/-- What proper names lead to lies below the place the root leads to. -/
theorem locate (h : fs.Reached root home) (hp : root.Extends names p)
    (hloc : fs.locate aim p = .ok loc) : loc = home ++ names := by
  obtain ⟨links, hw, -⟩ := h.walk_of_locate hp hloc
  exact h.linkless.walk hp.proper hw

theorem locate_keeps {aim' : Aim} (h : fs.Reached root home) (hp : root.Extends names p)
    (hloc : fs.locate aim p = .ok loc) (hk : Keeps fs fs') (haim : aim' ≠ .newFile) :
    fs'.locate aim' p = .ok loc := by
  obtain ⟨links, hw, hways⟩ := h.walk_of_locate hp hloc
  rw [hways fs' hk]
  exact hk.walk haim h.linkless hp.proper hw

theorem locate_target (h : fs.Reached root home) (hp : root.Extends names p)
    (hloc : fs.locate aim p = .ok loc) (hk : Keeps fs fs') : fs'.locate .target p = .ok loc :=
  h.locate_keeps hp hloc hk nofun

end Reached

/-- Names that lead on to more of them lead through directories and links. -/
theorem Passes.of_walk_append (hrest : rest ≠ [])
    (hw : fs.walk aim links dir (names ++ rest) = .ok loc) :
    ∃ links' home, fs.Passes links dir names links' home := by
  replace hw := Walks.of_walk hw
  generalize hall : names ++ rest = all at hw
  induction hw generalizing names with
  | nil => exact absurd (List.append_eq_nil_iff.mp hall).2 hrest
  | stay hstays _ ih =>
      cases names with
      | nil => exact ⟨_, _, .nil⟩
      | cons first names =>
          obtain ⟨rfl, rfl⟩ := List.cons.inj hall
          obtain ⟨links', home, hp⟩ := ih rfl
          exact ⟨links', home, .stay hstays hp⟩
  | up _ ih =>
      cases names with
      | nil => exact ⟨_, _, .nil⟩
      | cons first names =>
          obtain ⟨rfl, rfl⟩ := List.cons.inj hall
          obtain ⟨links', home, hp⟩ := ih rfl
          exact ⟨links', home, .up hp⟩
  | into hproper hlength _ hdir _ ih =>
      cases names with
      | nil => exact ⟨_, _, .nil⟩
      | cons first names =>
          obtain ⟨rfl, rfl⟩ := List.cons.inj hall
          obtain ⟨links', home, hp⟩ := ih rfl
          exact ⟨links', home, .into hproper hlength hdir hp⟩
  | follow hproper hlength _ hlink _ _ ih =>
      cases names with
      | nil => exact ⟨_, _, .nil⟩
      | cons first names =>
          obtain ⟨rfl, rfl⟩ := List.cons.inj hall
          obtain ⟨links', home, hp⟩ := ih (List.append_assoc ..)
          exact ⟨links', home, .follow hproper hlength hlink hp⟩
  | last =>
      cases names with
      | nil => exact ⟨_, _, .nil⟩
      | cons first names =>
          obtain ⟨-, hnil⟩ := List.cons.inj hall
          exact absurd (List.append_eq_nil_iff.mp hnil).2 hrest

end FileSystem

end Codewright.Workspace
