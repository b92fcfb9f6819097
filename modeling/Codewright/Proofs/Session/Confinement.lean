import Codewright.Proofs.Session.Snapshot
import Codewright.Proofs.Session.Writing
import Codewright.Proofs.Workspace.Confinement

/-!
# Accepting changes stays in the workspace

Whatever files and paths the service has named, accepting them changes nothing outside a workspace
that has no links in it. A link in the workspace can lead out of it.
-/

namespace Codewright.Session

open Staging (StagedFile)
open Workspace (Aim FileSystem Location Name Path arrived maxLinks maxNameLength pathLengthLimit
  slash)
open Workspace.FileSystem (Rooted Within)

variable {α σ : Type} {disk : Disk} {root : Path} {home : Location}

/-- If the root leads to `home` and there are no links below that, the action changes nothing but
what lies below it. -/
def StaysWithin (root : Path) (home : Location) (a : Action σ α) : Prop :=
  ∀ w, w.files.Rooted root home → Within home w.files (exec a w).2.files

theorem staysWithin_writeChanges (changes : Changes) :
    StaysWithin root home (writeChanges disk root changes : Action σ Accepted) := by
  intro w h
  have writes : Writes (fun fs => fs.Rooted root home ∧ Within home w.files fs)
      (writeChanges disk root changes : Action σ Accepted) := by
    refine .writeChanges ?_ ?_
    · rintro f _ p hp fs breakage? ⟨hrooted, hwithin⟩
      obtain ⟨names, hp⟩ := Path.inWorkspace?_extends hp
      have hput := hrooted.within_putFile hp breakage? f.content.toUTF8
      exact ⟨hrooted.within hput, hwithin.trans hput⟩
    · rintro path _ p hp fs ⟨hrooted, hwithin⟩
      obtain ⟨names, hp⟩ := Path.inWorkspace?_extends hp
      have hdrop := hrooted.within_dropFile hp
      exact ⟨hrooted.within hdrop, hwithin.trans hdrop⟩
  exact (writes.keeps rfl ⟨h, .refl home w.files⟩).2

theorem within_acceptChanges {r : Running σ} (h : r.world.files.Rooted r.session.root home) :
    Within home r.world.files (exec (acceptChanges disk) r).2.world.files := by
  rw [files_acceptChanges]
  exact staysWithin_writeChanges r.session.state.stage.changes r.world h

/-- If the workspace root is a directory with no links in it, accepting changes leaves every
location as it was that does not lie below this directory, whether it succeeds or not. -/
theorem acceptChanges_confined (disk : Disk) (r : Running σ) (home : Location)
    (hroot : r.world.files.find .target r.session.root = .ok (home, .dir))
    (hlinks : ∀ loc target, home <+: loc → r.world.files.get? loc ≠ some (.link target))
    (loc : Location) (hloc : ∀ names, names ≠ [] → loc ≠ home ++ names) :
    (exec (acceptChanges disk) r).2.world.files.get? loc = r.world.files.get? loc :=
  (within_acceptChanges ⟨hroot, hlinks⟩).outside loc hloc

/-! ## A workspace beside another directory -/

/-- A session that is to write the file `l/x` of the workspace `/w`. -/
def writing (files : FileSystem) : Running Unit where
  session := {
    tabId := "tab", root := sampleRoot
    state := {
      stage := .reviewing ⟨"conversation", some "place", sampleRoot, {}, 0⟩ 1
        ⟨[StagedFile.ofGenerated "place" ⟨"l/x", "text"⟩], []⟩
      tabId := "tab"
      token := ⟨0, []⟩ } }
  world := { outside := (), files }

/-- The empty workspace `/w` and another directory `/o`. -/
def sideBySide : FileSystem :=
  (({} : FileSystem).set [[0x77]] .dir).set [[0x6F]] .dir

theorem get?_sideBySide (loc : Location) :
    sideBySide.get? loc =
      if loc = [[0x6F]] then some .dir else if loc = [[0x77]] then some .dir
      else if loc = [] then some .dir else none := by
  rw [sideBySide, FileSystem.get?_set (List.cons_ne_nil _ _),
    FileSystem.get?_set (List.cons_ne_nil _ _), FileSystem.get?, Std.ExtTreeMap.getElem?_empty]

theorem locate_sampleRoot (fs : FileSystem) (aim : Aim) {names : List Name}
    (h : (⟨[0x2F, 0x77], names⟩ : Path).bytes.contains 0 = false ∧
      (⟨[0x2F, 0x77], names⟩ : Path).bytes.length < pathLengthLimit) :
    fs.locate aim ⟨[0x2F, 0x77], names⟩ = fs.walk aim maxLinks [] ([0x77] :: names) := by
  have hne : (⟨[0x2F, 0x77], names⟩ : Path).bytes ≠ [] := by
    cases names <;> exact List.cons_ne_nil _ _
  rw [FileSystem.locate_eq, h.1, if_neg Bool.false_ne_true, if_neg hne, if_neg (Nat.not_le.mpr h.2)]
  rfl

theorem find_sampleRoot {fs : FileSystem} (h : fs.get? [[0x77]] = some .dir) (aim : Aim) :
    fs.find aim sampleRoot = .ok ([[0x77]], .dir) := by
  rw [sampleRoot, FileSystem.find, locate_sampleRoot _ _ (by decide)]
  simp [FileSystem.walk, h, Path.here, Path.up, maxNameLength]

theorem acceptChanges_confined_empty :
    let r := exec (acceptChanges .sound) (writing sideBySide)
    r.2.world.files.get? [[0x6F], [0x78]] = none := by
  refine (acceptChanges_confined .sound (writing sideBySide) [[0x77]] ?_ ?_ [[0x6F], [0x78]]
    ?_).trans ?_
  · exact find_sampleRoot (get?_sideBySide _) _
  · intro loc target _ h
    replace h := (get?_sideBySide loc).symm.trans h
    split at h
    · cases h
    · split at h
      · cases h
      · split at h <;> cases h
  · intro names _ h
    exact absurd (List.cons.inj h).1 (by decide)
  · exact get?_sideBySide _

/-- Such a workspace with a link `l` to the other directory. -/
def linked : FileSystem :=
  sideBySide.set [[0x77], [0x6C]] (.link [0x2F, 0x6F])

theorem get?_linked (loc : Location) :
    linked.get? loc =
      if loc = [[0x77], [0x6C]] then some (.link [0x2F, 0x6F]) else sideBySide.get? loc :=
  FileSystem.get?_set (List.cons_ne_nil _ _) _ loc

theorem putFile_linked (content : ByteArray) :
    linked.putFile none ⟨[0x2F, 0x77], [[0x6C], [0x78]]⟩ content =
      (linked.set [[0x6F], [0x78]] (.file content), .ok ⟨⟩) := by
  have hmake : linked.makeDir ⟨[0x2F, 0x77], [[0x6C]]⟩ = .error .alreadyExists := by
    rw [FileSystem.makeDir, locate_sampleRoot _ _ (by decide)]
    simp [FileSystem.walk, get?_linked, get?_sideBySide, Path.here, Path.up, maxNameLength]
  have hdir : linked.isDir ⟨[0x2F, 0x77], [[0x6C]]⟩ = true := by
    rw [FileSystem.isDir, FileSystem.find, locate_sampleRoot _ _ (by decide)]
    simp [FileSystem.walk, get?_linked, get?_sideBySide, Path.here, Path.up, maxNameLength,
      maxLinks, Path.splitNames, slash]
  have hwrite : linked.locate .newFile ⟨[0x2F, 0x77], [[0x6C], [0x78]]⟩ = .ok [[0x6F], [0x78]] := by
    rw [locate_sampleRoot _ _ (by decide)]
    simp [FileSystem.walk, get?_linked, get?_sideBySide, Path.here, Path.up, maxNameLength,
      maxLinks, Path.splitNames, slash]
  have hparent : linked.makeParent ⟨[0x2F, 0x77], [[0x6C], [0x78]]⟩ = (linked, none) := by
    simp [FileSystem.makeParent, Path.parent?, FileSystem.makeDirs, FileSystem.makeDirsFrom,
      FileSystem.ensureDir, hmake, hdir]
  simp [FileSystem.putFile, hparent, FileSystem.writeFile, FileSystem.fillFile, arrived, hwrite,
     get?_linked, get?_sideBySide]

/-- A link in the workspace can lead out of it: what is written behind it lies elsewhere. -/
theorem acceptChanges_escapes :
    let r := exec (acceptChanges .sound) (writing linked)
    linked.find .target sampleRoot = .ok ([[0x77]], .dir) ∧
      linked.get? [[0x6F], [0x78]] = none ∧
      r.2.world.files.get? [[0x6F], [0x78]] = some (.file "text".toUTF8) := by
  have hpath : (sampleRoot : Path).inWorkspace? "l/x" =
      some ⟨[0x2F, 0x77], [[0x6C], [0x78]]⟩ := by decide +kernel
  refine ⟨?_, ?_, ?_⟩
  · exact find_sampleRoot (by simp [get?_linked, get?_sideBySide]) _
  · simp [get?_linked, get?_sideBySide]
  · simp [acceptChanges, writing, Stage.changes, StagedFile.ofGenerated, writeStaged, hpath,
      Disk.sound, changeFiles, putFile_linked, FileSystem.get?_set]

end Codewright.Session
