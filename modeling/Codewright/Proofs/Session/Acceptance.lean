import Codewright.Proofs.Session.Preview
import Codewright.Proofs.Workspace.Tree
import Mathlib.Data.Finset.Card

/-!
# What accepting changes comes to

Files are written and deleted one after the other, perhaps several times at one place and under
several names. What the workspace is in the end, and what is counted on the way, depends only on the
places that the names lead to.
-/

namespace Codewright.Session

open Staging (StagedFile)
open Workspace (FileSystem Location Path maxNameLength)
open Workspace.FileSystem (Changed Clear Stores dropFile_ok find_eq find_notFound_dropFile
  holdsFile_of_notFound)

variable {σ : Type} {disk : Disk} {root p : Path} {w w' : World σ} {done done' : Accepted}

/-- The paths below the root that texts lead to. -/
def places (root : Path) (texts : List String) : List Path :=
  texts.filterMap root.inWorkspace?

/-- How many texts lead nowhere in the workspace. -/
def astray (root : Path) (texts : List String) : Nat :=
  texts.countP fun text => (root.inWorkspace? text).isNone

theorem places_cons (root : Path) (text : String) (texts : List String) :
    places root (text :: texts) = (root.inWorkspace? text).toList ++ places root texts := by
  rw [places, List.filterMap_cons]
  cases root.inWorkspace? text with
  | none | some p => rfl

theorem astray_cons (root : Path) (text : String) (texts : List String) :
    astray root (text :: texts) =
      astray root texts + if (root.inWorkspace? text).isNone then 1 else 0 :=
  List.countP_cons

theorem extends_of_mem_places {texts : List String} (h : p ∈ places root texts) :
    ∃ names, root.Extends names p := by
  obtain ⟨text, -, hp⟩ := List.mem_filterMap.mp h
  exact Path.inWorkspace?_extends hp

/-! ## One file -/

theorem writeStaged_ok {f : StagedFile}
    (h : exec (writeStaged disk root done f) w = (.ok done', w')) :
    done' =
      match root.inWorkspace? f.path with
      | none => { done with skipped := done.skipped + 1 }
      | some _ => { done with written := done.written + 1 } := by
  unfold writeStaged at h
  cases hp : root.inWorkspace? f.path with
  | none =>
      rw [hp] at h
      cases h
      rfl
  | some p =>
      rw [hp] at h
      obtain ⟨_, w₁, -, hpure⟩ := exec_bind_ok h
      cases hpure
      rfl

theorem deleteStaged_ok {path : String}
    (h : exec (deleteStaged root done path) w = (.ok done', w')) :
    match root.inWorkspace? path with
    | none => done' = { done with skipped := done.skipped + 1 } ∧ w' = w
    | some p => ∃ gone, w.files.dropFile p = (w'.files, .ok gone) ∧
        done' = { done with deleted := done.deleted + if gone then 1 else 0 } := by
  unfold deleteStaged at h
  cases hp : root.inWorkspace? path with
  | none =>
      rw [hp] at h
      cases h
      exact ⟨rfl, rfl⟩
  | some p =>
      rw [hp] at h
      obtain ⟨gone, w₁, hchange, hpure⟩ := exec_bind_ok h
      have hdrop := exec_changeFiles_ok hchange
      cases gone with
      | true =>
          cases hpure
          exact ⟨true, hdrop, rfl⟩
      | false =>
          cases hpure
          exact ⟨false, hdrop, rfl⟩

/-! ## All files -/

theorem counts_of_writeAll {files : List StagedFile}
    (h : exec (files.foldlM (writeStaged disk root) done) w = (.ok done', w')) :
    done' = { done with
      written := done.written + (places root (files.map (·.path))).length
      skipped := done.skipped + astray root (files.map (·.path)) } := by
  induction files generalizing done w with
  | nil =>
      cases h
      rfl
  | cons f files ih =>
      rw [List.foldlM_cons] at h
      obtain ⟨done₁, w₁, hf, hrest⟩ := exec_bind_ok h
      rw [ih hrest, writeStaged_ok hf, List.map_cons, places_cons, astray_cons]
      cases root.inWorkspace? f.path with
      | none => simp [Nat.add_assoc, Nat.add_comm 1]
      | some p => simp [Nat.add_assoc, Nat.add_comm 1]

theorem deleteStaged_keeps_absent {path : String} (done : Accepted) :
    Writes (·.find .entry p = .error .notFound)
      (deleteStaged root done path : Action σ Accepted) :=
  .deleteStaged (fun q _ _ h => find_notFound_dropFile h q) done

theorem card_holding {fs fs' : FileSystem} {D : Finset Path} (hp : fs'.holdsFile p = false)
    (hother : ∀ q ∈ D, q ≠ p → fs'.holdsFile q = fs.holdsFile q) :
    ((insert p D).filter (fs.holdsFile ·)).card =
      (if fs.holdsFile p then 1 else 0) + (D.filter (fs'.holdsFile ·)).card := by
  have hrest (q : Path) : q ∈ D.filter (fs'.holdsFile ·) ↔ q ≠ p ∧ q ∈ D ∧ fs.holdsFile q := by
    rw [Finset.mem_filter]
    by_cases hq : q = p
    · simp [hq, hp]
    · simp only [ne_eq, hq, not_false_eq_true, true_and]
      exact and_congr_right fun hmem => by rw [hother q hmem hq]
  cases hfile : fs.holdsFile p with
  | true =>
      have hinsert : (insert p D).filter (fs.holdsFile ·) =
          insert p (D.filter (fs'.holdsFile ·)) := by
        ext q
        rw [Finset.mem_filter, Finset.mem_insert, Finset.mem_insert, hrest]
        by_cases hq : q = p
        · simp [hq, hfile]
        · simp [hq]
      rw [hinsert, Finset.card_insert_of_notMem (by simp [hp]), if_pos rfl, Nat.add_comm]
  | false =>
      have hsame : (insert p D).filter (fs.holdsFile ·) = D.filter (fs'.holdsFile ·) := by
        ext q
        rw [Finset.mem_filter, Finset.mem_insert, hrest]
        by_cases hq : q = p
        · simp [hq, hfile]
        · simp [hq]
      rw [hsame, if_neg Bool.false_ne_true, Nat.zero_add]

/-- What has been deleted is not there, and each place where there was a file counts once. -/
theorem counts_of_deleteAll {deleted : List String} (hclear : w.files.Clear root)
    (h : exec (deleted.foldlM (deleteStaged root) done) w = (.ok done', w')) :
    (∀ p ∈ places root deleted, w'.files.find .entry p = .error .notFound) ∧
      done' = { done with
        skipped := done.skipped + astray root deleted
        deleted := done.deleted +
          ((places root deleted).toFinset.filter (w.files.holdsFile ·)).card } := by
  induction deleted generalizing done w with
  | nil =>
      cases h
      exact ⟨nofun, rfl⟩
  | cons path deleted ih =>
      rw [List.foldlM_cons] at h
      obtain ⟨done₁, w₁, hpath, hrest⟩ := exec_bind_ok h
      have hone := deleteStaged_ok hpath
      rw [places_cons, astray_cons]
      cases hp : root.inWorkspace? path with
      | none =>
          rw [hp] at hone
          obtain ⟨rfl, rfl⟩ := hone
          obtain ⟨habsent, hcounts⟩ := ih hclear hrest
          exact ⟨habsent, by simp [hcounts, Nat.add_assoc, Nat.add_comm 1]⟩
      | some p =>
          rw [hp] at hone
          obtain ⟨gone, hdrop, rfl⟩ := hone
          obtain ⟨names, hextends⟩ := Path.inWorkspace?_extends hp
          obtain ⟨rfl, hnone, hother⟩ := dropFile_ok hclear hextends hdrop
          have hclear₁ : w₁.files.Clear root := by
            have hchanged := Changed.dropFile (W := []) hclear hextends (.head [])
            rw [hdrop] at hchanged
            exact hclear.keeps hchanged.toKeeps
          obtain ⟨habsent, hcounts⟩ := ih hclear₁ hrest
          refine ⟨fun q hq => ?_, ?_⟩
          · rcases List.mem_cons.mp hq with rfl | hq
            · exact (Writes.foldlM (fun _ _ done => deleteStaged_keeps_absent done) _).keeps hrest
                hnone
            · exact habsent q hq
          · -- What the other places hold is still what they held before this one was cleared.
            have hcard := card_holding (D := (places root deleted).toFinset)
              (holdsFile_of_notFound hnone) fun q hq hne => by
                obtain ⟨names', hq⟩ := extends_of_mem_places (List.mem_toFinset.mp hq)
                exact hother q names' hq hne
            rw [Option.toList_some, List.singleton_append, List.toFinset_cons, hcard, hcounts]
            simp [Nat.add_assoc]

theorem changed_writeChanges {changes : Changes} {res : Except Error Accepted}
    (hclear : w.files.Clear root) (h : exec (writeChanges disk root changes) w = (res, w')) :
    Changed (places root (changes.files.map (·.path))) (places root changes.deleted) w.files
      w'.files := by
  have writes : Writes (Changed (places root (changes.files.map (·.path)))
      (places root changes.deleted) w.files)
      (writeChanges disk root changes : Action σ Accepted) := by
    refine .writeChanges ?_ ?_
    · intro f hf p hp fs breakage? hchanged
      obtain ⟨names, hextends⟩ := Path.inWorkspace?_extends hp
      have hmem : p ∈ places root (changes.files.map (·.path)) :=
        List.mem_filterMap.mpr ⟨f.path, List.mem_map_of_mem hf, hp⟩
      exact hchanged.trans (.putFile (hclear.keeps hchanged.toKeeps) hextends hmem _ _)
    · intro path hpath p hp fs hchanged
      obtain ⟨names, hextends⟩ := Path.inWorkspace?_extends hp
      have hmem : p ∈ places root changes.deleted := List.mem_filterMap.mpr ⟨path, hpath, hp⟩
      exact hchanged.trans (.dropFile (hclear.keeps hchanged.toKeeps) hextends hmem)
  exact writes.keeps h (.refl _ _ _)

theorem exists_lastAt {files : List StagedFile} (h : p ∈ places root (files.map (·.path))) :
    ∃ f, lastAt root p files = some f := by
  obtain ⟨path, hpath, hp⟩ := List.mem_filterMap.mp h
  obtain ⟨f, hf, rfl⟩ := List.mem_map.mp hpath
  refine Option.isSome_iff_exists.mp (List.find?_isSome.mpr ⟨f, List.mem_reverse.mpr hf, ?_⟩)
  exact decide_eq_true hp

/-! ## Accepting changes -/

/-- What has become of a workspace in which changes have been accepted, and what is told about it.
In between, when all files were `written`, nothing had been deleted as yet. -/
structure Settled (root : Path) (changes : Changes) (before written after : FileSystem)
    (done : Accepted) : Prop where
  absent : ∀ p ∈ places root changes.deleted, after.find .entry p = .error .notFound
  stored : ∀ p ∈ places root (changes.files.map (·.path)), p ∉ places root changes.deleted →
    ∃ f, lastAt root p changes.files = some f ∧
      ∃ loc, after.find .entry p = .ok (loc, .file f.content.toUTF8)
  /-- Elsewhere the files are the same. -/
  files : ∀ loc content, (∀ p ∈ places root (changes.files.map (·.path)) ++
      places root changes.deleted, after.locate .entry p ≠ .ok loc) →
    (after.get? loc = some (.file content) ↔ before.get? loc = some (.file content))
  dirs : ∀ loc, before.get? loc = some .dir → after.get? loc = some .dir
  made : ∀ loc, after.get? loc = some .dir → before.get? loc = some .dir ∨
    ∃ p ∈ places root (changes.files.map (·.path)), ∃ q, p.LiesIn q ∧
      after.find .entry q = .ok (loc, .dir)
  countWritten : done.written = (places root (changes.files.map (·.path))).length
  countSkipped : done.skipped =
    astray root (changes.files.map (·.path)) + astray root changes.deleted
  countDeleted : done.deleted =
    ((places root changes.deleted).toFinset.filter (written.holdsFile ·)).card

/-- Where there are no links in the workspace, the order in which changes are carried out does not
show in what they come to. -/
theorem acceptChanges_settles (disk : Disk) (r r' : Running σ) (home : Location) (done : Accepted)
    (hlinks : ∀ loc target, home <+: loc → r.world.files.get? loc ≠ some (.link target))
    (hhome : home = [] ∨ r.world.files.find .target r.session.root = .ok (home, .dir))
    (h : exec (acceptChanges disk) r = (.ok done, r')) :
    let root := r.session.root
    let changes := r.session.state.stage.changes
    Settled root changes r.world.files
      (exec (changes.files.foldlM (writeStaged disk root) {}) r.world).2.files r'.world.files
      done := by
  intro root changes
  have hclear : r.world.files.Clear root := by
    rcases hhome with rfl | hfound
    · exact .inl hlinks
    · exact .inr ⟨home, Workspace.FileSystem.Rooted.reached ⟨hfound, hlinks⟩⟩
  obtain ⟨w, hrun, hfiles⟩ := exec_writeChanges_ok h
  have hchanged := changed_writeChanges hclear hrun
  obtain ⟨written, w₁, hwrite, hdelete⟩ := exec_bind_ok hrun
  have hclear₁ : w₁.files.Clear root :=
    (Writes.foldlM (fun f _ done => writeStaged_keeps_clear done f) {}).keeps hwrite hclear
  obtain ⟨habsent, hcounts⟩ := counts_of_deleteAll hclear₁ hdelete
  rw [counts_of_writeAll hwrite] at hcounts
  rw [← hfiles] at hchanged habsent
  exact {
    absent := habsent
    stored := fun p hp hkept => by
      obtain ⟨f, hf⟩ := exists_lastAt hp
      have hstores := stores_of_acceptChanges hclear h hf fun path hpath hpath' =>
        hkept (List.mem_filterMap.mpr ⟨path, hpath, hpath'⟩)
      exact ⟨f, hf, hstores.find_entry⟩
    files := hchanged.files
    dirs := hchanged.dirs
    made := hchanged.made
    countWritten := by
      rw [hcounts]
      exact Nat.zero_add _
    countSkipped := by
      rw [hcounts]
      exact congrArg (· + _) (Nat.zero_add _)
    countDeleted := by
      rw [hcounts, hwrite]
      exact Nat.zero_add _ }

/-- A session that is to write a file of the workspace `/w` and to delete it under another name. -/
def struckOut : Running Unit where
  session := {
    tabId := "tab", root := sampleRoot
    state := {
      stage := .reviewing ⟨"conversation", some "place", sampleRoot, {}, 0⟩ 1
        ⟨[StagedFile.ofGenerated "place" ⟨"a", "1"⟩], ["./a", "../b"]⟩
      tabId := "tab"
      token := ⟨0, []⟩ } }
  world := { outside := (), files := blank }

theorem dropFile_struckOut (content : ByteArray) :
    (blank.set [[0x77], [0x61]] (.file content)).dropFile ⟨[0x2F, 0x77], [[0x61]]⟩ =
      ((blank.set [[0x77], [0x61]] (.file content)).erase [[0x77], [0x61]], .ok true) := by
  have hloc : (blank.set [[0x77], [0x61]] (.file content)).locate .entry ⟨[0x2F, 0x77], [[0x61]]⟩ =
      .ok [[0x77], [0x61]] := by
    rw [locate_sampleRoot _ _ (by decide)]
    simp [FileSystem.walk, FileSystem.get?_set, get?_blank, Path.here, Path.up, maxNameLength]
  simp [FileSystem.dropFile, FileSystem.removeFile, FileSystem.find, hloc, FileSystem.get?_set]

theorem acceptChanges_struckOut :
    (exec (acceptChanges .sound) struckOut).1 =
      .ok { written := 1, deleted := 1, skipped := 1 } := by
  obtain ⟨ha, hdot⟩ := inWorkspace?_twiceNamed
  have hup : sampleRoot.inWorkspace? "../b" = none := by decide +kernel
  have hput : ∀ content, blank.putFile none ⟨[0x2F, 0x77], [[0x61]]⟩ content =
      (blank.set [[0x77], [0x61]] (.file content), .ok ⟨⟩) :=
    putFile_sampleRoot (by simp [get?_blank]) (.inl (by simp [get?_blank])) none
  simp [acceptChanges, struckOut, Stage.changes, StagedFile.ofGenerated, writeStaged, deleteStaged,
    Disk.sound, ha, hdot, hup, exec_changeFiles, hput, dropFile_struckOut]

/-- A file that is written and deleted is not there in the end, and counts as both. -/
theorem acceptChanges_settles_struckOut :
    let r' := (exec (acceptChanges .sound) struckOut).2
    blank.Linkless [] ∧
      (exec (acceptChanges .sound) struckOut).1 = .ok { written := 1, deleted := 1, skipped := 1 } ∧
      r'.world.files.find .entry ⟨[0x2F, 0x77], [[0x61]]⟩ = .error .notFound ∧
      r'.world.files.get? [[0x77]] = some .dir := by
  intro r'
  have hsettled := acceptChanges_settles .sound struckOut r' []
    { written := 1, deleted := 1, skipped := 1 } linkless_blank (.inl rfl) (Prod.ext acceptChanges_struckOut rfl)
  refine ⟨linkless_blank, acceptChanges_struckOut, hsettled.absent _ ?_, hsettled.dirs _ ?_⟩
  · exact List.mem_filterMap.mpr ⟨"./a", .head _, inWorkspace?_twiceNamed.2⟩
  · simp [struckOut, get?_blank]

end Codewright.Session
