import Codewright.Proofs.Session.Acceptance
import Codewright.Proofs.Workspace.Effects

/-!
# Changes that are not all accepted

Accepting changes stops at the first file that can not be written or deleted. What has been done
until then stays done, nothing else is, and the session is as it was: the same changes can be
accepted again. Only a write that breaks off leaves something of its own, the beginning of the file.
-/

namespace Codewright.Session

open Staging (StagedFile)
open Workspace (arrived Breakage FileSystem IoError Location Path maxNameLength slash)
open Workspace.FileSystem (Drops Makes Puts drops_of_dropFile dropFile_error puts_of_putFile
  putFile_error)

variable {α σ : Type} {disk : Disk} {root path : Path} {cause : IoError}
  {fs fs₁ fs' : FileSystem} {w w' : World σ} {e : Error} {done done' : Accepted}

/-! ## One after the other -/

section

variable {step fails : α → FileSystem → FileSystem → Prop} {x : α} {xs : List α}
  {act : Accepted → α → Action σ Accepted}

/-- Step by step, all of a row has been done. -/
inductive Performed (step : α → FileSystem → FileSystem → Prop) :
    List α → FileSystem → FileSystem → Prop where
  | nil {fs : FileSystem} : Performed step [] fs fs
  | cons {x : α} {xs : List α} {fs fs₁ fs' : FileSystem} :
      step x fs fs₁ → Performed step xs fs₁ fs' → Performed step (x :: xs) fs fs'

/-- All before one of a row has been done, and that one has failed. -/
inductive Interrupted (step fails : α → FileSystem → FileSystem → Prop) (xs : List α)
    (fs fs' : FileSystem) : Prop where
  | stopped {before after : List α} {x : α} {fs₁ : FileSystem} :
      xs = before ++ x :: after → Performed step before fs fs₁ → fails x fs₁ fs' →
      Interrupted step fails xs fs fs'

theorem Interrupted.cons (hx : step x fs fs₁) (h : Interrupted step fails xs fs₁ fs') :
    Interrupted step fails (x :: xs) fs fs' := by
  obtain ⟨rfl, hbefore, hfails⟩ := h
  exact .stopped rfl (.cons hx hbefore) hfails

theorem performed_of_foldlM
    (hstep : ∀ x done w done' w', exec (act done x) w = (.ok done', w') →
      step x w.files w'.files)
    (h : exec (xs.foldlM act done) w = (.ok done', w')) :
    Performed step xs w.files w'.files := by
  induction xs generalizing done w with
  | nil =>
      cases h
      exact .nil
  | cons x xs ih =>
      rw [List.foldlM_cons] at h
      obtain ⟨done₁, w₁, hx, hrest⟩ := exec_bind_ok h
      exact .cons (hstep x _ _ _ _ hx) (ih hrest)

theorem interrupted_of_foldlM
    (hstep : ∀ x done w done' w', exec (act done x) w = (.ok done', w') →
      step x w.files w'.files)
    (hfails : ∀ x done w w', exec (act done x) w = (.error e, w') → fails x w.files w'.files)
    (h : exec (xs.foldlM act done) w = (.error e, w')) :
    Interrupted step fails xs w.files w'.files := by
  induction xs generalizing done w with
  | nil => cases h
  | cons x xs ih =>
      rw [List.foldlM_cons] at h
      rcases exec_bind_error h with hx | ⟨done₁, w₁, hx, hrest⟩
      · exact .stopped rfl .nil (hfails x _ _ _ hx)
      · exact (ih hrest).cons (hstep x _ _ _ _ hx)

end

/-! ## Writing -/

/-- A staged file has been written, unless it leads out of the workspace. -/
inductive FileWritten (root : Path) (f : StagedFile) : FileSystem → FileSystem → Prop where
  | skipped {fs : FileSystem} : root.inWorkspace? f.path = none → FileWritten root f fs fs
  | written {p : Path} {fs fs' : FileSystem} :
      root.inWorkspace? f.path = some p → Puts p f.content.toUTF8 fs fs' → FileWritten root f fs fs'

/-- A staged file could not be written. -/
inductive WriteFailed (disk : Disk) (root path : Path) (cause : IoError) (f : StagedFile)
    (fs fs' : FileSystem) : Prop where
  /-- There may be new directories on the way to the file, but all files are as they were. -/
  | refused {p : Path} :
      root.inWorkspace? f.path = some p →
      fs.putFile none p f.content.toUTF8 = (fs', .error ⟨path, cause⟩) →
      path = p ∨ p.parent? = some path →
      Makes p fs fs' →
      (∀ loc content, fs'.get? loc = some (.file content) ↔ fs.get? loc = some (.file content)) →
      WriteFailed disk root path cause f fs fs'
  /-- The write has broken off on this disk. The file has the bytes that were written until then,
  and all other files are as they were. -/
  | brokenOff {n : Nat} {b : Breakage} {loc : Location} :
      root.inWorkspace? f.path = some path →
      disk.breakage? n = some b → cause = b.cause →
      Puts path (f.content.toUTF8.extract 0 b.written) fs fs' →
      fs'.get? loc = some (.file (f.content.toUTF8.extract 0 b.written)) →
      (∀ other content, other ≠ loc →
        (fs'.get? other = some (.file content) ↔ fs.get? other = some (.file content))) →
      WriteFailed disk root path cause f fs fs'

theorem fileWritten_of_writeStaged (f : StagedFile) (done : Accepted) (w : World σ)
    (done' : Accepted) (w' : World σ)
    (h : exec (writeStaged disk root done f) w = (.ok done', w')) :
    FileWritten root f w.files w'.files := by
  cases hp : root.inWorkspace? f.path with
  | none =>
      simp only [writeStaged, hp] at h
      cases h
      exact .skipped hp
  | some p => exact .written hp (puts_of_putFile (putFile_of_writeStaged hp h))

theorem writeFailed_of_writeStaged (f : StagedFile) (done : Accepted) (w w' : World σ)
    (h : exec (writeStaged disk root done f) w = (.error (.workspaceWrite path cause), w')) :
    WriteFailed disk root path cause f w.files w'.files := by
  unfold writeStaged at h
  cases hp : root.inWorkspace? f.path with
  | none =>
      rw [hp] at h
      cases h
  | some p =>
      rw [hp] at h
      rcases exec_bind_error h with hchange | ⟨_, w₁, -, hpure⟩
      · obtain ⟨_, _, heq, hput⟩ := exec_changeFiles_error hchange
        cases heq
        rcases putFile_error hput with ⟨hrefused, hmakes, hpath⟩ | ⟨b, hb, he, hputs⟩
        · exact .refused hp hrefused hpath hmakes hmakes.file_iff
        · obtain ⟨rfl, rfl⟩ := FileSystem.ChangeError.mk.inj he
          obtain ⟨loc, hloc, hothers⟩ := hputs.file_iff
          exact .brokenOff hp hb rfl hputs hloc hothers
      · cases hpure

/-! ## Deleting -/

/-- What is at a path has been deleted, unless the path leads out of the workspace. -/
inductive FileDeleted (root : Path) (text : String) : FileSystem → FileSystem → Prop where
  | skipped {fs : FileSystem} : root.inWorkspace? text = none → FileDeleted root text fs fs
  | deleted {p : Path} {fs fs' : FileSystem} :
      root.inWorkspace? text = some p → Drops p fs fs' → FileDeleted root text fs fs'

/-- What is at a path could not be deleted, and nothing has changed. -/
inductive DeletionRefused (root path : Path) (cause : IoError) (text : String)
    (fs fs' : FileSystem) :
    Prop where
  | refused :
      root.inWorkspace? text = some path → fs.dropFile path = (fs, .error ⟨path, cause⟩) →
      fs' = fs → DeletionRefused root path cause text fs fs'

theorem fileDeleted_of_deleteStaged (text : String) (done : Accepted) (w : World σ)
    (done' : Accepted) (w' : World σ)
    (h : exec (deleteStaged root done text) w = (.ok done', w')) :
    FileDeleted root text w.files w'.files := by
  have hone := deleteStaged_ok h
  cases hp : root.inWorkspace? text with
  | none =>
      rw [hp] at hone
      obtain ⟨-, rfl⟩ := hone
      exact .skipped hp
  | some p =>
      rw [hp] at hone
      obtain ⟨gone, hdrop, -⟩ := hone
      exact .deleted hp (drops_of_dropFile hdrop)

theorem deletionRefused_of_deleteStaged (text : String) (done : Accepted) (w w' : World σ)
    (h : exec (deleteStaged root done text) w = (.error (.workspaceWrite path cause), w')) :
    DeletionRefused root path cause text w.files w'.files := by
  unfold deleteStaged at h
  cases hp : root.inWorkspace? text with
  | none =>
      rw [hp] at h
      cases h
  | some p =>
      rw [hp] at h
      rcases exec_bind_error h with hchange | ⟨gone, w₁, -, hpure⟩
      · obtain ⟨_, _, heq, hdrop⟩ := exec_changeFiles_error hchange
        cases heq
        obtain ⟨hsame, rfl⟩ := dropFile_error hdrop
        rw [hsame] at hdrop
        exact .refused hp hdrop hsame
      · cases gone with
        | true | false => cases hpure

/-! ## Accepting changes -/

/-- A session whose second file is to lie in the first one, and that is to delete that one. -/
def inTheWay : Running Unit where
  session := {
    tabId := "tab", root := sampleRoot
    state := {
      stage := .reviewing ⟨"conversation", some "place", sampleRoot, {}, 0⟩ 1
        ⟨[StagedFile.ofGenerated "place" ⟨"a", "1"⟩, StagedFile.ofGenerated "place" ⟨"a/b", "2"⟩],
          ["a"]⟩
      tabId := "tab"
      token := ⟨0, []⟩ } }
  world := { outside := (), files := blank }

theorem putFile_inTheWay (old content : ByteArray) :
    (blank.set [[0x77], [0x61]] (.file old)).putFile none ⟨[0x2F, 0x77], [[0x61], [0x62]]⟩ content =
      (blank.set [[0x77], [0x61]] (.file old),
        .error ⟨⟨[0x2F, 0x77], [[0x61]]⟩, .alreadyExists⟩) := by
  have hloc (aim : Workspace.Aim) :
      (blank.set [[0x77], [0x61]] (.file old)).locate aim ⟨[0x2F, 0x77], [[0x61]]⟩ =
        .ok [[0x77], [0x61]] := by
    rw [locate_sampleRoot _ _ (by decide)]
    simp [FileSystem.walk, FileSystem.get?_set, get?_blank, Path.here, Path.up, maxNameLength]
  have hensure : (blank.set [[0x77], [0x61]] (.file old)).ensureDir ⟨[0x2F, 0x77], [[0x61]]⟩ =
      (blank.set [[0x77], [0x61]] (.file old), some .alreadyExists) := by
    simp [FileSystem.ensureDir, FileSystem.makeDir, FileSystem.isDir, FileSystem.find, hloc,
      FileSystem.get?_set]
  simp [FileSystem.putFile, FileSystem.makeParent, Path.parent?, FileSystem.makeDirs,
    FileSystem.makeDirsFrom, hensure, Path.bytes, Path.joinName, slash]

theorem exec_acceptChanges_inTheWay :
    (exec (acceptChanges .sound) inTheWay).1 =
      .error (.workspaceWrite ⟨[0x2F, 0x77], [[0x61]]⟩ .alreadyExists) := by
  have ha : sampleRoot.inWorkspace? "a" = some ⟨[0x2F, 0x77], [[0x61]]⟩ := by
    decide +kernel
  have hb : sampleRoot.inWorkspace? "a/b" = some ⟨[0x2F, 0x77], [[0x61], [0x62]]⟩ := by
    decide +kernel
  have hput : ∀ content, blank.putFile none ⟨[0x2F, 0x77], [[0x61]]⟩ content =
      (blank.set [[0x77], [0x61]] (.file content), .ok ⟨⟩) :=
    putFile_sampleRoot (by simp [get?_blank]) (.inl (by simp [get?_blank])) none
  simp [acceptChanges, inTheWay, Stage.changes, StagedFile.ofGenerated, writeStaged,
    Disk.sound, ha, hb, exec_changeFiles, hput, putFile_inTheWay]

/-- A disk without room for a single byte. -/
def full : Disk where
  breakage? _ := some ⟨0, .other "No space left on device (os error 28)"⟩

theorem exec_acceptChanges_full :
    exec (acceptChanges full) inTheWay =
      (.error (.workspaceWrite ⟨[0x2F, 0x77], [[0x61]]⟩
          (.other "No space left on device (os error 28)")),
        { inTheWay with
          world := { inTheWay.world with
            files := blank.set [[0x77], [0x61]]
              (.file (arrived (full.breakage? 0) "1".toUTF8)) } }) := by
  have ha : sampleRoot.inWorkspace? "a" = some ⟨[0x2F, 0x77], [[0x61]]⟩ := by
    decide +kernel
  have hput : ∀ content, blank.putFile (full.breakage? 0) ⟨[0x2F, 0x77], [[0x61]]⟩ content =
      (blank.set [[0x77], [0x61]] (.file (arrived (full.breakage? 0) content)),
        .error ⟨⟨[0x2F, 0x77], [[0x61]]⟩, .other "No space left on device (os error 28)"⟩) :=
    putFile_sampleRoot (by simp [get?_blank]) (.inl (by simp [get?_blank])) _
  simp [acceptChanges, inTheWay, Stage.changes, StagedFile.ofGenerated, writeStaged, ha,
    exec_changeFiles, hput]

end Codewright.Session
