import Codewright.Proofs.Session.Acceptance
import Codewright.Proofs.Workspace.Repeat

/-!
# Changes that are accepted again

Where there are no links, accepting the same changes a second time comes to the same: what was
written is written over, what was deleted is missing, and directories are there already.
-/

namespace Codewright.Session

open Staging (StagedFile)
open Workspace (FileSystem Path)
open Workspace.FileSystem (Between Keeps LinkFree Overwrites Removes dropFile_again putFile_again)

variable {σ : Type} {root : Path} {fs D : FileSystem} {w w' v : World σ}
  {done done' again : Accepted} {f : StagedFile} {files : List StagedFile} {deleted : List String}
  {disk : Disk}

/-! ## Trees on the way -/

theorem writeStaged_overwrites (hfree : fs.LinkFree root) (done : Accepted) (f : StagedFile) :
    Writes (Overwrites fs) (writeStaged disk root done f : Action σ Accepted) := by
  refine .writeStaged (fun p hp fs' breakage? h => ?_) done
  obtain ⟨names, hextends⟩ := Path.inWorkspace?_extends hp
  exact h.trans (.putFile (hfree.keeps h.toKeeps) hextends _ _)

theorem deleteStaged_removes (hfree : fs.LinkFree root) (done : Accepted) (path : String) :
    Writes (Removes fs) (deleteStaged root done path : Action σ Accepted) := by
  refine .deleteStaged (fun p hp fs' h => ?_) done
  obtain ⟨names, hextends⟩ := Path.inWorkspace?_extends hp
  exact h.trans (.dropFile (hfree.keeps h.toKeeps) hextends)

theorem overwrites_of_writeAll (hfree : w.files.LinkFree root)
    (h : exec (files.foldlM (writeStaged disk root) done) w = (.ok done', w')) :
    Overwrites w.files w'.files :=
  (Writes.foldlM (fun f _ done => writeStaged_overwrites hfree done f) done).keeps h (.refl _)

theorem removes_of_deleteAll (hfree : w.files.LinkFree root)
    (h : exec (deleted.foldlM (deleteStaged root) done) w = (.ok done', w')) :
    Removes w.files w'.files :=
  (Writes.foldlM (fun path _ done => deleteStaged_removes hfree done path) done).keeps h (.refl _)

/-! ## The second time -/

/-- As many files have been written, and as many names lead out of the workspace. -/
structure Alike (done again : Accepted) : Prop where
  written : again.written = done.written
  skipped : again.skipped = done.skipped

theorem writeStaged_again (hfree : w.files.LinkFree root)
    (h : exec (writeStaged disk root done f) w = (.ok done', w')) (hover : Overwrites w'.files fs)
    (hremoves : Removes fs D) (hk : Keeps D v.files) (hb : Between w.files D v.files)
    (ha : Alike done again) :
    ∃ again' v', exec (writeStaged disk root again f) v = (.ok again', v') ∧ Alike done' again' ∧
      Keeps D v'.files ∧ Between w'.files D v'.files := by
  have hdone := writeStaged_ok h
  cases hp : root.inWorkspace? f.path with
  | none =>
      simp only [writeStaged, hp] at h hdone ⊢
      cases h
      exact ⟨_, v, rfl, ⟨ha.written, congrArg (· + 1) ha.skipped⟩, hk, hb⟩
  | some p =>
      obtain ⟨names, hextends⟩ := Path.inWorkspace?_extends hp
      have hput := putFile_of_writeStaged hp h
      obtain ⟨T, hputT, hkT, hbT⟩ :=
        putFile_again hfree hextends hput hover hremoves hk hb
      rw [hp] at hdone
      refine ⟨{ again with written := again.written + 1 }, { v with files := T }, ?_, ?_, hkT, hbT⟩
      · simp only [writeStaged, hp, exec_bind, exec_changeFiles, ha.written, hputT, exec_pure]
      · rw [hdone]
        exact ⟨congrArg (· + 1) ha.written, ha.skipped⟩

theorem writeAll_again (hfree : w.files.LinkFree root)
    (h : exec (files.foldlM (writeStaged disk root) done) w = (.ok done', w'))
    (hremoves : Removes w'.files D) (hk : Keeps D v.files) (hb : Between w.files D v.files)
    (ha : Alike done again) :
    ∃ again' v', exec (files.foldlM (writeStaged disk root) again) v = (.ok again', v') ∧
      Alike done' again' ∧ Between w'.files D v'.files := by
  induction files generalizing done w again v with
  | nil =>
      cases h
      exact ⟨again, v, rfl, ha, hb⟩
  | cons f files ih =>
      rw [List.foldlM_cons] at h
      obtain ⟨done₁, w₁, hf, hrest⟩ := exec_bind_ok h
      have hone := (writeStaged_overwrites hfree done f).keeps hf (.refl _)
      have hfree₁ := hfree.keeps hone.toKeeps
      obtain ⟨again₁, v₁, hf', ha₁, hk₁, hb₁⟩ :=
        writeStaged_again hfree hf (overwrites_of_writeAll hfree₁ hrest) hremoves hk hb ha
      obtain ⟨again', v', hrest', ha', hb'⟩ := ih hfree₁ hrest hk₁ hb₁ ha₁
      refine ⟨again', v', ?_, ha', hb'⟩
      rw [List.foldlM_cons, exec_bind, hf']
      exact hrest'

theorem deleteStaged_again {path : String} (hfree : w.files.LinkFree root)
    (h : exec (deleteStaged root done path) w = (.ok done', w')) (hremoves : Removes w'.files D)
    (hb : Between w.files D v.files) (ha : Alike done again) :
    ∃ again' v', exec (deleteStaged root again path) v = (.ok again', v') ∧ Alike done' again' ∧
      Between w'.files D v'.files := by
  have hone := deleteStaged_ok h
  cases hp : root.inWorkspace? path with
  | none =>
      rw [hp] at hone
      obtain ⟨rfl, rfl⟩ := hone
      refine ⟨{ again with skipped := again.skipped + 1 }, v, ?_,
        ⟨ha.written, congrArg (· + 1) ha.skipped⟩, hb⟩
      simp [deleteStaged, hp]
  | some p =>
      rw [hp] at hone
      obtain ⟨gone, hdrop, rfl⟩ := hone
      obtain ⟨names, hextends⟩ := Path.inWorkspace?_extends hp
      obtain ⟨T, gone', hdropT, hbT⟩ := dropFile_again hfree hextends hdrop hremoves hb
      refine ⟨{ again with deleted := again.deleted + if gone' then 1 else 0 },
        { v with files := T }, ?_, ⟨ha.written, ha.skipped⟩, hbT⟩
      cases gone' with
      | true | false => simp [deleteStaged, hp, hdropT]

theorem deleteAll_again (hfree : w.files.LinkFree root)
    (h : exec (deleted.foldlM (deleteStaged root) done) w = (.ok done', w'))
    (hb : Between w.files w'.files v.files) (ha : Alike done again) :
    ∃ again' v', exec (deleted.foldlM (deleteStaged root) again) v = (.ok again', v') ∧
      Alike done' again' ∧ Between w'.files w'.files v'.files := by
  induction deleted generalizing done w again v with
  | nil =>
      cases h
      exact ⟨again, v, rfl, ha, hb⟩
  | cons path deleted ih =>
      rw [List.foldlM_cons] at h
      obtain ⟨done₁, w₁, hpath, hrest⟩ := exec_bind_ok h
      have hone := (deleteStaged_removes hfree done path).keeps hpath (.refl _)
      have hfree₁ := hfree.keeps hone.toKeeps
      obtain ⟨again₁, v₁, hpath', ha₁, hb₁⟩ :=
        deleteStaged_again hfree hpath (removes_of_deleteAll hfree₁ hrest) hb ha
      obtain ⟨again', v', hrest', ha', hb'⟩ := ih hfree₁ hrest hb₁ ha₁
      refine ⟨again', v', ?_, ha', hb'⟩
      rw [List.foldlM_cons, exec_bind, hpath']
      exact hrest'

theorem writeChanges_again {changes : Changes} (hfree : w.files.LinkFree root)
    (h : exec (writeChanges disk root changes) w = (.ok done, w')) (hv : v.files = w'.files) :
    ∃ again v', exec (writeChanges disk root changes) v = (.ok again, v') ∧ Alike done again ∧
      ∀ loc, v'.files.get? loc = w'.files.get? loc := by
  obtain ⟨written, w₁, hwrite, hdelete⟩ := exec_bind_ok h
  have hfree₁ := hfree.keeps (overwrites_of_writeAll hfree hwrite).toKeeps
  have hremoves := removes_of_deleteAll hfree₁ hdelete
  have hk : Keeps w'.files v.files := hv ▸ .refl _
  have hb : Between w.files w'.files v.files := hv ▸ .right _ _
  obtain ⟨written', v₁, hwrite', ha₁, hb₁⟩ := writeAll_again hfree hwrite hremoves hk hb ⟨rfl, rfl⟩
  obtain ⟨again, v', hdelete', ha', hb'⟩ := deleteAll_again hfree₁ hdelete hb₁ ha₁
  refine ⟨again, v', ?_, ha', fun loc => (hb'.get? loc).elim id id⟩
  rw [writeChanges, exec_bind, hwrite']
  exact hdelete'

/-! ## Accepting changes -/

theorem session_acceptChanges (disk : Disk) (r : Running σ) :
    (exec (acceptChanges disk) r).2.session = r.session := by
  rw [exec_acceptChanges]
  rcases exec (writeChanges disk r.session.root r.session.state.stage.changes) r.world
    with ⟨e | done, w⟩
  · rfl
  · rfl

theorem exec_acceptChanges_ok {r : Running σ}
    (h : exec (writeChanges disk r.session.root r.session.state.stage.changes) r.world =
      (.ok done, w)) :
    ∃ r', exec (acceptChanges disk) r = (.ok done, r') ∧ r'.world.files = w.files := by
  rw [exec_acceptChanges, h]
  exact ⟨_, rfl, rfl⟩

/-- Where there are no links, changes that have been accepted can be accepted again. As much is
written and skipped as before, and no file or directory changes. -/
theorem acceptChanges_again (disk : Disk) (r r' : Running σ) (done : Accepted)
    (hfree : r.world.files.LinkFree r.session.root)
    (h : exec (acceptChanges disk) r = (.ok done, r')) :
    ∃ again r'', exec (acceptChanges disk) r' = (.ok again, r'') ∧
      again.written = done.written ∧ again.skipped = done.skipped ∧
      ∀ loc, r''.world.files.get? loc = r'.world.files.get? loc := by
  have hsession : r'.session = r.session := by
    rw [← session_acceptChanges disk r, h]
  obtain ⟨w, hwrite, hw⟩ := exec_writeChanges_ok h
  obtain ⟨again, v, hagain, halike, hfiles⟩ := writeChanges_again hfree hwrite hw
  rw [← hsession] at hagain
  obtain ⟨r'', hrun, hv⟩ := exec_acceptChanges_ok hagain
  refine ⟨again, r'', hrun, halike.written, halike.skipped, fun loc => ?_⟩
  rw [hv, hfiles, hw]

/-- The file that is written and deleted is written and deleted again. -/
theorem acceptChanges_again_struckOut :
    let r' := (exec (acceptChanges .sound) struckOut).2
    blank.Clear sampleRoot ∧
      (exec (acceptChanges .sound) struckOut).1 =
        .ok { written := 1, deleted := 1, skipped := 1 } ∧
      ∃ again r'', exec (acceptChanges .sound) r' = (.ok again, r'') ∧
        again.written = 1 ∧ again.skipped = 1 ∧
        ∀ loc, r''.world.files.get? loc = r'.world.files.get? loc := by
  intro r'
  have hclear : blank.Clear sampleRoot := .inl linkless_blank
  have hrun := acceptChanges_struckOut
  refine ⟨hclear, hrun, ?_⟩
  exact acceptChanges_again .sound struckOut r' { written := 1, deleted := 1, skipped := 1 }
    hclear.linkFree (Prod.ext hrun rfl)

end Codewright.Session
