import Codewright.Proofs.Workspace.Effects

/-!
# Changes that are made again

When changes are made again in the tree that they have led to, each tree on the way holds at every
location what the tree of the first time held there, or what there is in the end. In the end both
are the same.
-/

namespace Codewright.Workspace

namespace FileSystem

-- The trees of the first time are `S`, those of the second time `T`, and `D` is there in the end.
variable {fs fs' fs'' S S₁ D T T₁ : FileSystem} {aim : Aim} {home loc : Location} {root p : Path}
  {names : List Name} {content : ByteArray} {breakage? : Option Breakage}

/-! ## Workspaces free of links -/

/-- A path leads through directories and links to a place. -/
def LeadsTo (fs : FileSystem) (p : Path) (home : Location) : Prop :=
  ∃ start names links, fs.baseStart? p.base = some (start, names) ∧
    fs.Passes maxLinks start (names ++ p.names) links home

/-- There are no links below the place that the root leads to, or would lead to if there were more
directories. -/
def LinkFree (fs : FileSystem) (root : Path) : Prop :=
  ∀ fs' home, Keeps fs fs' → fs'.LeadsTo root home → fs.Linkless home

namespace LinkFree

theorem keeps (h : fs.LinkFree root) (hk : Keeps fs fs') : fs'.LinkFree root :=
  fun fs'' home hk' hleads => hk.linkless (h fs'' home (hk.trans hk') hleads)

/-- Where something below the root can be located the root has been reached. -/
theorem reached (h : fs.LinkFree root) (hp : root.Extends names p)
    (hloc : fs.locate aim p = .ok loc) : ∃ home, fs.Reached root home := by
  obtain ⟨start, first, hstart, hw⟩ := walk_of_locate hloc
  obtain ⟨rfl, hne, -⟩ := hp
  rw [← List.append_assoc] at hw
  obtain ⟨links, home, hpasses⟩ := Passes.of_walk_append hne hw
  have hleads : fs.LeadsTo root home := ⟨start, first, links, hstart, hpasses⟩
  exact ⟨home, hleads, h fs home (.refl fs) hleads⟩

end LinkFree

theorem Reached.linkFree (h : fs.Reached root home) : fs.LinkFree root := by
  intro fs' home' hk hleads
  obtain ⟨start, names, links, hstart, hpasses⟩ := (hk.reached h).passes
  obtain ⟨start', names', links', hstart', hpasses'⟩ := hleads
  obtain ⟨rfl, rfl⟩ := Prod.mk.inj (Option.some.inj (hstart.symm.trans hstart'))
  obtain rfl := Except.ok.inj (hpasses.walk_target.symm.trans hpasses'.walk_target)
  exact h.linkless

/-- This holds if there are no links at all, or none below the place that the root leads to. -/
theorem Clear.linkFree (h : fs.Clear root) : fs.LinkFree root := by
  rcases h with hl | ⟨home, hr⟩
  · exact fun _ _ _ _ => hl.below List.nil_prefix
  · exact hr.linkFree

/-! ## What is on the way -/

/-- At each location there is what there was in the one tree, or what there is in the other. -/
structure Between (S D T : FileSystem) : Prop where
  get? : ∀ loc, T.get? loc = S.get? loc ∨ T.get? loc = D.get? loc
  workingDirectory : T.workingDirectory = D.workingDirectory

theorem Between.right (S D : FileSystem) : Between S D D :=
  ⟨fun _ => .inr rfl, rfl⟩

theorem Between.keeps (h : Between S D T) (hk : Keeps S D) : Keeps S T where
  dirs loc hd := by
    rcases h.get? loc with heq | heq
    · rw [heq, hd]
    · rw [heq, hk.dirs loc hd]
  links loc target := by
    rcases h.get? loc with heq | heq
    · rw [heq]
    · rw [heq]
      exact hk.links loc target
  workingDirectory := h.workingDirectory.trans hk.workingDirectory

/-- Files have been removed, and all ways are as they were. -/
structure Removes (fs fs' : FileSystem) : Prop extends Keeps fs fs', Prunes fs fs'

namespace Removes

theorem refl (fs : FileSystem) : Removes fs fs :=
  { Keeps.refl fs with get? := fun _ => .inl rfl }

theorem trans (h : Removes fs fs') (h' : Removes fs' fs'') : Removes fs fs'' where
  toKeeps := h.toKeeps.trans h'.toKeeps
  get? loc := by
    rcases h'.get? loc with heq | ⟨heq, hne⟩
    · rw [heq]
      exact h.get? loc
    · exact .inr ⟨heq, fun hd => hne (h.dirs loc hd)⟩

theorem between (h : Removes S D) (hb : Between S D T) : Removes S T where
  toKeeps := hb.keeps h.toKeeps
  get? loc := by
    rcases hb.get? loc with heq | heq
    · exact .inl heq
    · rw [heq]
      exact h.get? loc

theorem dropFile (h : fs.LinkFree root) (hp : root.Extends names p) :
    Removes fs (fs.dropFile p).1 := by
  unfold FileSystem.dropFile
  split
  · rename_i hr
    obtain ⟨loc, e, hfound, -, -⟩ := removeFile_ok hr
    obtain ⟨home, hreached⟩ := h.reached hp (of_find hfound).1
    exact { (hreached.removeFile hp hr).1 with get? := (prunes_removeFile hr).get? }
  · exact .refl fs
  · exact .refl fs

end Removes

/-- Files have been written, and all ways are as they were. -/
structure Overwrites (fs fs' : FileSystem) : Prop extends Keeps fs fs' where
  files : ∀ loc content, fs.get? loc = some (.file content) →
    ∃ content', fs'.get? loc = some (.file content')

namespace Overwrites

theorem refl (fs : FileSystem) : Overwrites fs fs :=
  ⟨.refl fs, fun _ content h => ⟨content, h⟩⟩

theorem trans (h : Overwrites fs fs') (h' : Overwrites fs' fs'') : Overwrites fs fs'' where
  toKeeps := h.toKeeps.trans h'.toKeeps
  files loc content he := by
    obtain ⟨content', he'⟩ := h.files loc content he
    exact h'.files loc content' he'

theorem of_makes (h : Makes p fs fs') : Overwrites fs fs' :=
  ⟨h.toKeeps, fun loc content he => ⟨content, h.kept loc _ he⟩⟩

theorem fillFile (h : fs.LinkFree root) (hp : root.Extends names p)
    (hw : fs.fillFile p content = .ok fs') : Overwrites fs fs' := by
  obtain ⟨loc, hloc, -⟩ := fillFile_ok hw
  obtain ⟨home, hr⟩ := h.reached hp hloc
  obtain ⟨-, hk, hget⟩ := hr.fillFile hp hw
  refine ⟨hk, fun l old he => ?_⟩
  rw [hget]
  split
  · exact ⟨content, rfl⟩
  · exact ⟨old, he⟩

theorem putFile (h : fs.LinkFree root) (hp : root.Extends names p)
    (breakage? : Option Breakage) (content : ByteArray) :
    Overwrites fs (fs.putFile breakage? p content).1 := by
  have hmakes := Makes.makeParent fs p
  rcases putFile_leaves fs breakage? p content with heq | ⟨c, hfill⟩
  · rw [heq]
    exact of_makes hmakes
  · exact (of_makes hmakes).trans (fillFile (h.keeps hmakes.toKeeps) hp hfill)

/-- Where a file was written there is no directory, even if it has been removed since. -/
theorem not_dir (h : Overwrites fs fs') (h' : Removes fs' fs'')
    (he : fs.get? loc = some (.file content)) : fs''.get? loc ≠ some .dir := by
  obtain ⟨content', he'⟩ := h.files loc content he
  intro hd
  have hdir := h'.get?_dir.mp hd
  cases he'.symm.trans hdir

end Overwrites

/-! ## The second time -/

/-- Where directories have been made on the way, the tree of the second time has them already. -/
theorem Between.of_makes {made : FileSystem} (hb : Between S D T) (hmakes : Makes p S made)
    (hmade : Keeps made D) (hk : Keeps D T) : Between made D T where
  get? loc := by
    rcases hb.get? loc with heq | heq
    · cases he : made.get? loc with
      | none =>
          cases hbefore : S.get? loc with
          | none => exact .inl (heq.trans hbefore)
          | some e => cases he.symm.trans (hmakes.kept loc e hbefore)
      | some e =>
          rcases hmakes.new loc e he with hbefore | ⟨rfl, -⟩
          · exact .inl (heq.trans hbefore)
          · exact .inl (hk.dirs loc (hmade.dirs loc he))
    · exact .inr heq
  workingDirectory := hb.workingDirectory

/-- The same entry is changed in both trees. -/
theorem Between.change {e? : Option Entry} (hb : Between S D T)
    (hS : ∀ l, S₁.get? l = if l = loc then e? else S.get? l)
    (hT : ∀ l, T₁.get? l = if l = loc then e? else T.get? l)
    (hw : T₁.workingDirectory = T.workingDirectory) : Between S₁ D T₁ where
  get? l := by
    rw [hS, hT]
    split
    · exact .inl rfl
    · exact hb.get? l
  workingDirectory := hw.trans hb.workingDirectory

theorem fillFile_again (hfree : S.LinkFree root) (hp : root.Extends names p)
    (hw : S.fillFile p content = .ok S₁) (hover : Overwrites S₁ fs) (hremoves : Removes fs D)
    (hk : Keeps D T) (hb : Between S D T) :
    ∃ T₁, T.fillFile p content = .ok T₁ ∧ Keeps D T₁ ∧ Between S₁ D T₁ := by
  obtain ⟨loc, hloc, hfile, -⟩ := fillFile_ok hw
  obtain ⟨home, hr⟩ := hfree.reached hp hloc
  obtain rfl := hr.locate hp hloc
  obtain ⟨-, hkeeps, hget⟩ := hr.fillFile hp hw
  have hST : Keeps S T := hkeeps.trans (hover.toKeeps.trans (hremoves.toKeeps.trans hk))
  have hlocT : T.locate .newFile p = .ok (home ++ names) := hST.locate hloc
  have hdir : T.get? (home ++ names) ≠ some .dir := by
    rcases hb.get? (home ++ names) with heq | heq
    · rw [heq]
      exact hfile
    · rw [heq]
      exact hover.not_dir hremoves ((hget _).trans (if_pos rfl))
  obtain ⟨T₁, hwT⟩ : ∃ T₁, T.fillFile p content = .ok T₁ := by
    rw [FileSystem.fillFile, hlocT]
    dsimp only
    split
    · exact absurd ‹_› hdir
    · exact ⟨_, rfl⟩
  obtain ⟨-, hkeepsT, hgetT⟩ := (hST.reached hr).fillFile hp hwT
  exact ⟨T₁, hwT, hk.trans hkeepsT, hb.change hget hgetT hkeepsT.workingDirectory⟩

/-- What has been written can be written again. -/
theorem putFile_again (hfree : S.LinkFree root) (hp : root.Extends names p)
    (hput : S.putFile breakage? p content = (S₁, .ok ⟨⟩)) (hover : Overwrites S₁ fs)
    (hremoves : Removes fs D) (hk : Keeps D T) (hb : Between S D T) :
    ∃ T₁, T.putFile breakage? p content = (T₁, .ok ⟨⟩) ∧ Keeps D T₁ ∧ Between S₁ D T₁ := by
  have hmakes := Makes.makeParent S p
  cases Put.of_putFile hput with
  | @written made _ hnone hmade hfill =>
      rw [hmade] at hmakes
      have hfree₁ := hfree.keeps hmakes.toKeeps
      have hmadeD : Keeps made D :=
        (Overwrites.fillFile hfree₁ hp hfill).toKeeps.trans (hover.toKeeps.trans hremoves.toKeeps)
      obtain ⟨T₁, hfillT, hkT, hbT⟩ :=
        fillFile_again hfree₁ hp hfill hover hremoves hk (hb.of_makes hmakes hmadeD hk)
      exact ⟨T₁, hnone ▸ putFile_of_fillFile (makeParent_again hmade (hmadeD.trans hk)) hfillT,
        hkT, hbT⟩

/-- What has been removed is removed again, or is not there. -/
theorem dropFile_again {gone : Bool} (hfree : S.LinkFree root) (hp : root.Extends names p)
    (hdrop : S.dropFile p = (S₁, .ok gone)) (hremoves : Removes S₁ D) (hb : Between S D T) :
    ∃ T₁ gone', T.dropFile p = (T₁, .ok gone') ∧ Between S₁ D T₁ := by
  have hremoved : Removes S S₁ := by
    have h := Removes.dropFile hfree hp
    rwa [hdrop] at h
  have hST : Removes S T := (hremoved.trans hremoves).between hb
  cases drops_of_dropFile hdrop with
  | missing hfound => exact ⟨T, false, dropFile_of_notFound (hST.find_notFound hfound), hb⟩
  | @removed loc e hfound hdir =>
      obtain ⟨hloc, he⟩ := of_find hfound
      have hlocT : T.locate .entry p = .ok loc := hST.toKeeps.locate hloc
      have hne : loc ≠ [] := by
        rintro rfl
        exact hdir (Option.some.inj he).symm
      have hgone : D.get? loc = none := hremoves.get?_none ((get?_erase hne loc).trans (if_pos rfl))
      cases heT : T.get? loc with
      | none =>
          have hfoundT : T.find .entry p = .error .notFound := by
            rw [find_eq_notFound, hlocT]
            exact heT
          have hsame : ∀ l, T.get? l = if l = loc then none else T.get? l := by
            intro l
            split
            · rename_i hl
              rw [hl, heT]
            · rfl
          exact ⟨T, false, dropFile_of_notFound hfoundT, hb.change (get?_erase hne) hsame rfl⟩
      | some e' =>
          have hsame : e' = e := by
            rcases hb.get? loc with heq | heq
            · exact Option.some.inj (heT.symm.trans (heq.trans he))
            · cases heT.symm.trans (heq.trans hgone)
          have hfoundT := find_eq hlocT heT
          exact ⟨T.erase loc, true, dropFile_of_find hfoundT (hsame ▸ hdir),
            hb.change (get?_erase hne) (get?_erase hne) rfl⟩

end FileSystem

end Codewright.Workspace
