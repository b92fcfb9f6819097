import Codewright.Proofs.Session.Execution

/-!
# Writing the staged files

Changes are accepted by writing and deleting one file after the other. What every one of these
changes of the workspace keeps has been kept when all are done, or when one of them has failed.
-/

namespace Codewright.Session

open Staging (StagedFile)
open Workspace (Breakage FileSystem Path)

variable {α β σ : Type} {disk : Disk}

@[simp] theorem exec_changeFiles
    (f : FileSystem → FileSystem × Except FileSystem.ChangeError α) (w : World σ) :
    exec (changeFiles f) w =
      match f w.files with
      | (fs, .ok x) => (.ok x, { w with files := fs })
      | (fs, .error e) => (.error (.workspaceWrite e.path e.cause), { w with files := fs }) := by
  rw [changeFiles, exec_bind, exec_modifyGet]
  rcases f w.files with ⟨fs, e | x⟩
  · rfl
  · rfl

theorem exec_changeFiles_ok {f : FileSystem → FileSystem × Except FileSystem.ChangeError α}
    {w w' : World σ} {x : α} (h : exec (changeFiles f) w = (.ok x, w')) :
    f w.files = (w'.files, .ok x) := by
  rw [exec_changeFiles] at h
  rcases hf : f w.files with ⟨fs, e | y⟩
  · rw [hf] at h
    cases h
  · rw [hf] at h
    cases h
    rfl

theorem exec_changeFiles_error {f : FileSystem → FileSystem × Except FileSystem.ChangeError α}
    {w w' : World σ} {e : Error} (h : exec (changeFiles f) w = (.error e, w')) :
    ∃ path cause, e = .workspaceWrite path cause ∧
      f w.files = (w'.files, .error ⟨path, cause⟩) := by
  rw [exec_changeFiles] at h
  rcases hf : f w.files with ⟨fs, failure | x⟩
  · rw [hf] at h
    cases h
    exact ⟨_, _, rfl, rfl⟩
  · rw [hf] at h
    cases h

/-- A staged file that has been written and not skipped has been put at its path. -/
theorem putFile_of_writeStaged {root p : Path} {done done' : Accepted} {f : StagedFile}
    {w w' : World σ} (hp : root.inWorkspace? f.path = some p)
    (h : exec (writeStaged disk root done f) w = (.ok done', w')) :
    w.files.putFile (disk.breakage? done.written) p f.content.toUTF8 = (w'.files, .ok ⟨⟩) := by
  simp only [writeStaged, hp] at h
  obtain ⟨_, w₁, hchange, hpure⟩ := exec_bind_ok h
  cases hpure
  exact exec_changeFiles_ok hchange

/-- An action that changes nothing but the workspace, and fails only if it can not do that. -/
def OnlyWrites (a : Action σ α) : Prop :=
  ∀ w, ∃ res fs, exec a w = (res, { w with files := fs }) ∧
    ∀ e, res = .error e → ∃ path cause, e = .workspaceWrite path cause

/-- Such an action that keeps `P`, whether it succeeds or fails. -/
def Writes (P : FileSystem → Prop) (a : Action σ α) : Prop :=
  ∀ w, ∃ res fs, exec a w = (res, { w with files := fs }) ∧ (P w.files → P fs) ∧
    ∀ e, res = .error e → ∃ path cause, e = .workspaceWrite path cause

/-- All that accepting changes does to the workspace. -/
def writeChanges (disk : Disk) (root : Path) (changes : Changes) : Action σ Accepted := do
  let written ← changes.files.foldlM (writeStaged disk root) {}
  changes.deleted.foldlM (deleteStaged root) written

theorem exec_acceptChanges (disk : Disk) (r : Running σ) :
    exec (acceptChanges disk) r =
      match exec (writeChanges disk r.session.root r.session.state.stage.changes) r.world with
      | (.ok done, w) =>
        let notice : LogEntry := .event (.answer
          { kind := .answer, tabId := r.session.tabId, message := some acceptedNotice })
        (.ok done, { r with world := { w with log := notice :: w.log } })
      | (.error e, w) => (.error e, { r with world := w }) := by
  simp only [acceptChanges, writeChanges, exec_bind, exec_get, Operation.exec_act]
  rcases exec (r.session.state.stage.changes.files.foldlM (writeStaged disk r.session.root) {})
    r.world with ⟨e | written, w₁⟩
  · rfl
  dsimp only
  rcases exec (r.session.state.stage.changes.deleted.foldlM (deleteStaged r.session.root) written)
    w₁ with ⟨e | done, w₂⟩
  · rfl
  · rfl

theorem files_acceptChanges (disk : Disk) (r : Running σ) :
    (exec (acceptChanges disk) r).2.world.files =
      (exec (writeChanges disk r.session.root r.session.state.stage.changes) r.world).2.files := by
  rw [exec_acceptChanges]
  rcases exec (writeChanges disk r.session.root r.session.state.stage.changes) r.world
    with ⟨e | done, w⟩
  · rfl
  · rfl

/-- Changes are accepted if all has been written. -/
theorem exec_writeChanges_ok {r r' : Running σ} {done : Accepted}
    (h : exec (acceptChanges disk) r = (.ok done, r')) :
    ∃ w, exec (writeChanges disk r.session.root r.session.state.stage.changes) r.world =
        (.ok done, w) ∧
      r'.world.files = w.files := by
  rw [exec_acceptChanges] at h
  rcases hwrite : exec (writeChanges disk r.session.root r.session.state.stage.changes) r.world
    with ⟨e | done', w⟩
  · rw [hwrite] at h
    cases h
  · rw [hwrite] at h
    cases h
    exact ⟨w, rfl, rfl⟩

namespace Writes

variable {P : FileSystem → Prop} {root : Path}

theorem onlyWrites {a : Action σ α} (h : Writes P a) : OnlyWrites a := by
  intro w
  obtain ⟨res, fs, hrun, -, he⟩ := h w
  exact ⟨res, fs, hrun, he⟩

theorem keeps {a : Action σ α} (h : Writes P a) {w w' : World σ} {res : Except Error α}
    (hrun : exec a w = (res, w')) (hw : P w.files) : P w'.files := by
  obtain ⟨res', fs, hrun', hP, -⟩ := h w
  obtain ⟨rfl, rfl⟩ := Prod.mk.inj (hrun.symm.trans hrun')
  exact hP hw

theorem pure (x : α) : Writes P (Pure.pure x : Action σ α) := by
  intro w
  exact ⟨.ok x, w.files, rfl, id, by simp⟩

theorem bind {a : Action σ α} {f : α → Action σ β} (ha : Writes P a) (hf : ∀ x, Writes P (f x)) :
    Writes P (a >>= f) := by
  intro w
  obtain ⟨e | x, fs, h, hP, he⟩ := ha w
  · refine ⟨.error e, fs, by simp [h], hP, ?_⟩
    rintro _ ⟨⟩
    exact he e rfl
  · obtain ⟨res, fs', h', hP', he'⟩ := hf x { w with files := fs }
    exact ⟨res, fs', by simp [h, h'], fun hw => hP' (hP hw), he'⟩

theorem changeFiles {f : FileSystem → FileSystem × Except FileSystem.ChangeError α}
    (hf : ∀ fs, P fs → P (f fs).1) : Writes P (changeFiles f : Action σ α) := by
  intro w
  have hP := hf w.files
  rcases h : f w.files with ⟨fs, e | x⟩
  · rw [h] at hP
    refine ⟨.error (.workspaceWrite e.path e.cause), fs, by simp [h], hP, ?_⟩
    rintro _ ⟨⟩
    exact ⟨_, _, rfl⟩
  · rw [h] at hP
    exact ⟨.ok x, fs, by simp [h], hP, by simp⟩

theorem foldlM {f : β → α → Action σ β} {xs : List α} (hf : ∀ x ∈ xs, ∀ done, Writes P (f done x))
    (done : β) : Writes P (xs.foldlM f done) := by
  induction xs generalizing done with
  | nil => exact pure done
  | cons x xs ih =>
      rw [List.foldlM_cons]
      exact bind (hf x (.head _) done) (ih fun y hy => hf y (.tail _ hy))

theorem writeStaged {f : StagedFile}
    (hf : ∀ p, root.inWorkspace? f.path = some p →
      ∀ (fs : FileSystem) (breakage? : Option Breakage),
      P fs → P (fs.putFile breakage? p f.content.toUTF8).1) (done : Accepted) :
    Writes P (writeStaged disk root done f : Action σ Accepted) := by
  unfold Session.writeStaged
  split
  · exact pure _
  · rename_i p hp
    exact bind (changeFiles fun fs => hf p hp fs _) fun _ => pure _

theorem deleteStaged {path : String}
    (hf : ∀ p, root.inWorkspace? path = some p → ∀ fs : FileSystem, P fs → P (fs.dropFile p).1)
    (done : Accepted) : Writes P (deleteStaged root done path : Action σ Accepted) := by
  unfold Session.deleteStaged
  split
  · exact pure _
  · rename_i p hp
    refine bind (changeFiles (hf p hp)) fun gone => ?_
    split <;> exact pure _

theorem writeChanges {changes : Changes}
    (hwrite : ∀ f ∈ changes.files, ∀ p, root.inWorkspace? f.path = some p →
      ∀ (fs : FileSystem) (breakage? : Option Breakage),
        P fs → P (fs.putFile breakage? p f.content.toUTF8).1)
    (hdelete : ∀ path ∈ changes.deleted, ∀ p, root.inWorkspace? path = some p →
      ∀ fs : FileSystem, P fs → P (fs.dropFile p).1) :
    Writes P (writeChanges disk root changes : Action σ Accepted) :=
  bind (foldlM (fun f hf => writeStaged (hwrite f hf)) {})
    (foldlM fun path hpath => deleteStaged (hdelete path hpath))

end Writes

theorem onlyWrites_writeChanges (disk : Disk) (root : Path) (changes : Changes) :
    OnlyWrites (writeChanges disk root changes : Action σ Accepted) :=
  (Writes.writeChanges (P := fun _ => True) (fun _ _ _ _ _ _ h => h)
    fun _ _ _ _ _ h => h).onlyWrites

end Codewright.Session
