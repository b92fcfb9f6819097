import Codewright.Proofs.Session.Confinement
import Codewright.Proofs.Session.Reachable
import Codewright.Proofs.Staging
import Codewright.Proofs.Workspace.Content
import Codewright.Proofs.Workspace.Spelling

/-!
# What is accepted has been shown

The files of a round are staged when they are announced and written into the workspace when they are
accepted. In both places the last one counts. What is in the workspace is therefore what is staged,
unless the round names one place by two addresses.
-/

namespace Codewright.Session

open Service (GeneratedFile)
open Staging (StagedFile Store Uri)
open Transcript
open Workspace (ArchiveFormat Breakage FileSystem Location Path arrived maxNameLength)
open Workspace.FileSystem (Clear Stores)

variable {α β σ : Type} {disk : Disk}

/-! ## The files of a round -/

/-- Generated files of one round. -/
def FromRound (files : List StagedFile) : Prop :=
  ∃ (uploadId : String) (round : List GeneratedFile),
    files = round.map (StagedFile.ofGenerated uploadId)

theorem FromRound.nil : FromRound [] := ⟨"", [], rfl⟩

/-- Files of a round that have the same address have the same place. -/
theorem FromRound.inWorkspace?_eq {files : List StagedFile} {f g : StagedFile}
    (h : FromRound files) (hf : f ∈ files) (hg : g ∈ files) (hu : f.uri = g.uri) (root : Path) :
    root.inWorkspace? f.path = root.inWorkspace? g.path := by
  obtain ⟨uploadId, round, rfl⟩ := h
  obtain ⟨a, -, rfl⟩ := List.mem_map.mp hf
  obtain ⟨b, -, rfl⟩ := List.mem_map.mp hg
  exact Path.inWorkspace?_eq_of_ofFile_eq root hu

namespace Transcript

variable {format : ArchiveFormat} {fs : FileSystem} {s s' : State} {c : Context}
  {iteration : UInt32}
  {message : Option String} {t : List LogEntry} {files : List StagedFile} {outcome : Outcome}

theorem Poll.fromRound {pauseMs n : Nat} {job : Job} {res : Except Error JobResult}
    {changes : Changes} (h : Poll pauseMs job n t res) (hres : res = .ok (.complete changes)) :
    FromRound changes.files := by
  induction h with
  | pending _ _ ih => exact ih hres
  | complete =>
      cases hres
      exact ⟨_, _, rfl⟩
  | cancelled | timeout | refused | failed | unknown | lost => cases hres

theorem Generation.fromRound {changes : Changes} (h : Generation s c message t (.ok changes)) :
    FromRound changes.files := by
  cases h with
  | cancelled => exact .nil
  | complete _ poll => exact poll.fromRound rfl

theorem Round.fromRound {keep : Changes → Stage}
    (h : Round s c iteration message keep t files s' (.ok outcome)) :
    outcome.next.stage.changes.files = files ∧ FromRound files := by
  cases h with
  | done _ generation => exact ⟨rfl, generation.fromRound⟩

theorem Regeneration.fromRound
    (h : Regeneration s c iteration message t files s' (.ok outcome)) :
    outcome.next.stage.changes.files = files ∧ FromRound files := by
  cases h with
  | sent _ round => exact round.fromRound

/-- The state that takes over holds the staged files if it is to be asked for feedback on them. -/
theorem Interaction.fromRound (h : Interaction format fs s message t files s' (.ok outcome)) :
    outcome.next.stage.changes.files = [] ∨
      outcome.next.stage.changes.files = files ∧ FromRound files := by
  cases h with
  | begun _ _ draft | drafted _ draft | revised _ _ draft =>
      rw [draft.next.1]
      exact .inl rfl
  | diverted _ _ mock | mocked _ mock =>
      rw [mock.next.1]
      exact .inl rfl
  | generated _ round => exact .inr round.fromRound
  | reworked _ _ regeneration | regenerated _ regeneration => exact .inr regeneration.fromRound

end Transcript

/-- The files that a session holds are those of a round, and nothing has been staged since. -/
structure Shown (staged : Store) (x : Session) : Prop where
  fromRound : FromRound x.state.stage.changes.files
  last : ∃ before : Store, staged = before.registerAll x.state.stage.changes.files

theorem Shown.of_nil {staged : Store} {x : Session} (h : x.state.stage.changes.files = []) :
    Shown staged x := by
  refine ⟨?_, staged, ?_⟩
  · rw [h]
    exact .nil
  · rw [h]
    rfl

namespace Transcript

variable {format : ArchiveFormat} {fs : FileSystem} {tokens : Tokens} {x x' : Session}
  {message : Option String}
  {t : List LogEntry} {files : List StagedFile} {staged : Store}

theorem Forward.shown {res : Except Error (Option String)}
    (h : Forward format fs tokens x message t files x' res) (hx : Shown staged x) :
    Shown (staged.registerAll files) x' := by
  rcases h.outcome with ⟨token, e, u, rfl, -, rfl, -⟩ | ⟨s', outcome, u, rfl, -, interaction, -⟩
  · exact ⟨hx.fromRound, hx.last⟩
  · rcases interaction.fromRound with hnil | ⟨hfiles, hround⟩
    · exact .of_nil hnil
    · exact ⟨hfiles ▸ hround, staged, by rw [hfiles]⟩

theorem Acceptance.shown {res : Except Error Unit} (h : Acceptance x x' res) (hx : Shown staged x) :
    Shown staged x' := by
  cases h with
  | before | noUpload | tooEarly | noPlan => exact hx
  | now => exact .of_nil rfl

theorem Step.shown {m : Move} {res : Except Error Reply}
    (h : Step format fs tokens x m t files x' res)
    (hx : Shown staged x) : Shown (staged.registerAll files) x' := by
  cases h with
  | startedBefore | notStarted | notWritten | written | cancelled | edited => exact hx
  | handled => exact ⟨hx.fromRound, hx.last⟩
  | started => exact .of_nil rfl
  | sent forward => exact forward.shown ⟨hx.fromRound, hx.last⟩
  | retried forward => exact forward.shown hx
  | accepted acceptance | notAccepted acceptance => exact acceptance.shown hx
  | generated acceptance forward => exact forward.shown (acceptance.shown hx)

end Transcript

theorem shown_run (env : Environment σ) {r : Running σ} (hr : Shown r.world.staged r.session)
    (moves : List Move) :
    Shown (run env r moves).world.staged (run env r moves).session := by
  refine run_induction (P := fun r => Shown r.world.staged r.session) env hr ?_ moves
  rintro ⟨x, w⟩ m hx
  obtain ⟨t, files, x', res, w', hrun, step, -, hs, -⟩ := perform_spec env m x w
  rw [hrun]
  exact hs ▸ step.shown hx

/-! ## Writing the files -/

variable {root p : Path} {w w' : World σ} {done done' : Accepted}

theorem writeStaged_keeps_clear (done : Accepted) (f : StagedFile) :
    Writes (Clear · root) (writeStaged disk root done f : Action σ Accepted) := by
  refine .writeStaged (fun q hq fs _ h => ?_) done
  obtain ⟨names, hq⟩ := Path.inWorkspace?_extends hq
  exact h.putFile hq _ _

theorem writeStaged_keeps_stores {content : ByteArray} {f : StagedFile}
    (hf : root.inWorkspace? f.path ≠ some p) (done : Accepted) :
    Writes (Stores · root p content) (writeStaged disk root done f : Action σ Accepted) := by
  refine .writeStaged (fun q hq fs _ h => ?_) done
  have hne : q ≠ p := fun heq => hf (heq ▸ hq)
  obtain ⟨names, hq⟩ := Path.inWorkspace?_extends hq
  exact h.putFile hq hne _ _

theorem deleteStaged_keeps_stores {content : ByteArray} {path : String}
    (hf : root.inWorkspace? path ≠ some p) (done : Accepted) :
    Writes (Stores · root p content) (deleteStaged root done path : Action σ Accepted) := by
  refine .deleteStaged (fun q hq fs h => ?_) done
  have hne : q ≠ p := fun heq => hf (heq ▸ hq)
  obtain ⟨names, hq⟩ := Path.inWorkspace?_extends hq
  exact h.dropFile hq hne

/-- A file that is not skipped is there when it has been written. -/
theorem stores_of_writeStaged {f : StagedFile} (hp : root.inWorkspace? f.path = some p)
    (hw : w.files.Clear root) (h : exec (writeStaged disk root done f) w = (.ok done', w')) :
    w'.files.Stores root p f.content.toUTF8 := by
  obtain ⟨names, hextends⟩ := Path.inWorkspace?_extends hp
  exact .of_putFile hw hextends (putFile_of_writeStaged hp h)

/-- Of the files for one place the last one is there when all have been written. -/
theorem stores_of_writeAll {before after : List StagedFile} {f : StagedFile}
    (hp : root.inWorkspace? f.path = some p)
    (hafter : ∀ g ∈ after, root.inWorkspace? g.path ≠ some p) (hw : w.files.Clear root)
    (h : exec ((before ++ f :: after).foldlM (writeStaged disk root) done) w = (.ok done', w')) :
    w'.files.Stores root p f.content.toUTF8 := by
  rw [List.foldlM_append] at h
  obtain ⟨done₁, w₁, hbefore, h⟩ := exec_bind_ok h
  rw [List.foldlM_cons] at h
  obtain ⟨done₂, w₂, hf, h⟩ := exec_bind_ok h
  have hclear : w₁.files.Clear root :=
    (Writes.foldlM (fun g _ done => writeStaged_keeps_clear done g) done).keeps hbefore hw
  have hstores := stores_of_writeStaged hp hclear hf
  exact (Writes.foldlM (fun g hg done => writeStaged_keeps_stores (hafter g hg) done) done₂).keeps h
    hstores

/-! ## Accepting the files -/

/-- The last of the files for a place. -/
def lastAt (root p : Path) (files : List StagedFile) : Option StagedFile :=
  files.reverse.find? fun f => root.inWorkspace? f.path = some p

theorem lastAt_eq_some {files : List StagedFile} {f : StagedFile}
    (h : lastAt root p files = some f) :
    root.inWorkspace? f.path = some p ∧ ∃ before after, files = before ++ f :: after ∧
      ∀ g ∈ after, root.inWorkspace? g.path ≠ some p := by
  obtain ⟨hp, after, before, heq, hafter⟩ := List.find?_eq_some_iff_append.mp h
  refine ⟨of_decide_eq_true hp, before.reverse, after.reverse, ?_, fun g hg => ?_⟩
  · rw [← List.reverse_reverse files, heq]
    simp
  · simpa using hafter g (List.mem_reverse.mp hg)

/-- Of the files for a place the last one is read at its address. -/
theorem read_of_lastAt {files : List StagedFile} {f : StagedFile} (hround : FromRound files)
    (h : lastAt root p files = some f) (before : Store) :
    (before.registerAll files).read f.uri = some f.content.toUTF8 := by
  obtain ⟨hp, earlier, later, rfl, hlater⟩ := lastAt_eq_some h
  have hlast : (earlier ++ f :: later).reverse.find? (fun g => g.uri = f.uri) = some f := by
    refine List.find?_eq_some_iff_append.mpr
      ⟨decide_eq_true rfl, later.reverse, earlier.reverse, by simp, fun g hg => ?_⟩
    have hg' : g ∈ later := List.mem_reverse.mp hg
    have hne : g.uri ≠ f.uri := by
      intro hu
      refine hlater g hg' ((hround.inWorkspace?_eq ?_ ?_ hu root).trans hp)
      · simp [hg']
      · simp
    simpa using hne
  rw [Store.read_registerAll, hlast]
  rfl

theorem staged_acceptChanges (disk : Disk) (r : Running σ) :
    (exec (acceptChanges disk) r).2.world.staged = r.world.staged := by
  obtain ⟨t, res, fs, hrun, -⟩ := acceptChanges_spec Workspace.Zip.format disk r.session r.world
  rw [hrun]

theorem stores_of_acceptChanges {r r' : Running σ} {f : StagedFile}
    (hclear : r.world.files.Clear r.session.root)
    (h : exec (acceptChanges disk) r = (.ok done, r'))
    (hf : lastAt r.session.root p r.session.state.stage.changes.files = some f)
    (hdeleted : ∀ path ∈ r.session.state.stage.changes.deleted,
      r.session.root.inWorkspace? path ≠ some p) :
    r'.world.files.Stores r.session.root p f.content.toUTF8 := by
  obtain ⟨w, hrun, hfiles⟩ := exec_writeChanges_ok h
  obtain ⟨written, w₁, hwrite, hdelete⟩ := exec_bind_ok hrun
  obtain ⟨hp, before, after, heq, hafter⟩ := lastAt_eq_some hf
  rw [heq] at hwrite
  rw [hfiles]
  exact (Writes.foldlM (fun path hpath done => deleteStaged_keeps_stores (hdeleted path hpath) done)
    written).keeps hdelete (stores_of_writeAll hp hafter hclear hwrite)

/-- When the changes have been accepted, the workspace holds what is staged. Of a place to which
several addresses of the round lead this holds for the address of the last file. -/
theorem accepted_as_shown (disk : Disk) (env : Environment σ) (settings : Settings) (root : Path)
    (tabId : String) (outside : σ) (files : FileSystem) (moves : List Move) (home : Location) :
    let r := run env (Session.new settings root tabId outside files) moves
    let changes := r.session.state.stage.changes
    (∀ loc target, home <+: loc → r.world.files.get? loc ≠ some (.link target)) →
    home = [] ∨ r.world.files.find .target root = .ok (home, .dir) →
    ∀ done r', exec (acceptChanges disk) r = (.ok done, r') →
    ∀ f ∈ changes.files, ∀ p, root.inWorkspace? f.path = some p →
      (∀ path ∈ changes.deleted, root.inWorkspace? path ≠ some p) →
      (lastAt root p changes.files).map (·.uri) = some f.uri →
      ∃ bytes, r'.world.staged.read f.uri = some bytes ∧ r'.world.files.readFile p = .ok bytes := by
  intro r changes hlinks hhome done r' h f _ p _ hdeleted hlast
  have hsound := (Sound.new settings root tabId outside files).run env moves
  have hroot : r.session.root = root := hsound.root
  have hshown : Shown r.world.staged r.session := shown_run env (.of_nil rfl) moves
  have hclear : r.world.files.Clear root := by
    rcases hhome with rfl | hfound
    · exact .inl hlinks
    · exact .inr ⟨home, Workspace.FileSystem.Rooted.reached ⟨hfound, hlinks⟩⟩
  have hstaged : r'.world.staged = r.world.staged := by
    rw [← staged_acceptChanges disk r, h]
  obtain ⟨g, hg, hu⟩ := Option.map_eq_some_iff.mp hlast
  obtain ⟨before, hbefore⟩ := hshown.last
  refine ⟨g.content.toUTF8, ?_, ?_⟩
  · rw [hstaged, hbefore, ← hu]
    exact read_of_lastAt hshown.fromRound hg before
  · rw [← hroot] at hclear hg hdeleted
    exact (stores_of_acceptChanges hclear h hg hdeleted).readFile

/-! ## One file named in two ways -/

/-- The workspace `/w` without files. -/
def blank : FileSystem :=
  ({} : FileSystem).set [[0x77]] .dir

theorem get?_blank (loc : Location) :
    blank.get? loc =
      if loc = [[0x77]] then some .dir else if loc = [] then some .dir else none := by
  rw [blank, FileSystem.get?_set (List.cons_ne_nil _ _), FileSystem.get?,
    Std.ExtTreeMap.getElem?_empty]

theorem linkless_blank : blank.Linkless [] := by
  intro loc target _ h
  replace h := (get?_blank loc).symm.trans h
  split at h
  · cases h
  · split at h <;> cases h

theorem putFile_sampleRoot {fs : FileSystem} (hd : fs.get? [[0x77]] = some .dir)
    (hf : fs.get? [[0x77], [0x61]] = none ∨ ∃ old, fs.get? [[0x77], [0x61]] = some (.file old))
    (breakage? : Option Breakage) (content : ByteArray) :
    fs.putFile breakage? ⟨[0x2F, 0x77], [[0x61]]⟩ content =
      (fs.set [[0x77], [0x61]] (.file (arrived breakage? content)),
        match breakage? with
        | none => .ok ⟨⟩
        | some b => .error ⟨⟨[0x2F, 0x77], [[0x61]]⟩, b.cause⟩) := by
  have hmake : fs.makeDir ⟨[0x2F, 0x77], []⟩ = .error .alreadyExists := by
    rw [FileSystem.makeDir, locate_sampleRoot _ _ (by decide)]
    simp [FileSystem.walk, hd, Path.here, Path.up, maxNameLength]
  have hfind : fs.find .target ⟨[0x2F, 0x77], []⟩ = .ok ([[0x77]], .dir) :=
    find_sampleRoot hd .target
  have hdir : fs.isDir ⟨[0x2F, 0x77], []⟩ = true := by
    rw [FileSystem.isDir, hfind]
  have hwrite : fs.locate .newFile ⟨[0x2F, 0x77], [[0x61]]⟩ = .ok [[0x77], [0x61]] := by
    rw [locate_sampleRoot _ _ (by decide)]
    rcases hf with hf | ⟨old, hf⟩ <;>
      simp [FileSystem.walk, hd, hf, Path.here, Path.up, maxNameLength]
  have htrim : Path.trimBase [0x2F, 0x77] = [0x2F, 0x77] := by decide
  have hparent : fs.makeParent ⟨[0x2F, 0x77], [[0x61]]⟩ = (fs, none) := by
    simp [FileSystem.makeParent, Path.parent?, htrim, FileSystem.makeDirs, FileSystem.makeDirsFrom,
      FileSystem.ensureDir, hmake, hdir]
  rcases hf with hf | ⟨old, hf⟩ <;> cases breakage? <;>
    simp [FileSystem.putFile, hparent, FileSystem.writeFile, FileSystem.fillFile, hwrite, hf]

/-- A service that generates one file under two names. -/
def twiceNaming : Environment Unit :=
  obliging (.ok "job") ⟨[⟨"a", "1"⟩, ⟨"./a", "2"⟩], []⟩

/-- A session in which this service has generated the file. -/
def twiceNamed : Running Unit :=
  run twiceNaming (Session.new {} sampleRoot "tab" () sample)
    [.preload "task", .send "message", .generateCode, .edit blank]

theorem twiceNamed_eq :
    twiceNamed = run twiceNaming (planned twiceNaming) [.generateCode, .edit blank] := rfl

theorem root_twiceNamed : twiceNamed.session.root = sampleRoot := by
  rw [twiceNamed_eq, twiceNaming, planned_obliging]
  rfl

theorem changes_twiceNamed :
    twiceNamed.session.state.stage.changes =
      ⟨[⟨"a", "1", .ofFile "place" "a"⟩, ⟨"./a", "2", .ofFile "place" "./a"⟩], []⟩ := by
  rw [twiceNamed_eq, twiceNaming, planned_obliging]
  rfl

theorem inWorkspace?_twiceNamed :
    sampleRoot.inWorkspace? "a" = some ⟨[0x2F, 0x77], [[0x61]]⟩ ∧
      sampleRoot.inWorkspace? "./a" = some ⟨[0x2F, 0x77], [[0x61]]⟩ := by
  decide +kernel

theorem acceptChanges_twiceNamed : (exec (acceptChanges .sound) twiceNamed).1 = .ok ⟨2, 0, 0⟩ := by
  have hfiles : twiceNamed.world.files = blank := rfl
  obtain ⟨ha, hdot⟩ := inWorkspace?_twiceNamed
  have hfirst : ∀ content, blank.putFile none ⟨[0x2F, 0x77], [[0x61]]⟩ content =
      (blank.set [[0x77], [0x61]] (.file content), .ok ⟨⟩) :=
    putFile_sampleRoot (by simp [get?_blank]) (.inl (by simp [get?_blank])) none
  have hsecond (old : ByteArray) : ∀ content,
      (blank.set [[0x77], [0x61]] (.file old)).putFile none ⟨[0x2F, 0x77], [[0x61]]⟩ content =
        ((blank.set [[0x77], [0x61]] (.file old)).set [[0x77], [0x61]] (.file content), .ok ⟨⟩) :=
    putFile_sampleRoot (by simp [FileSystem.get?_set, get?_blank])
      (.inr ⟨old, by simp [FileSystem.get?_set]⟩) none
  simp [acceptChanges, changes_twiceNamed, root_twiceNamed, hfiles, writeStaged, ha, hdot,
    Disk.sound, exec_changeFiles, hfirst, hsecond]

theorem not_mem_deleted_twiceNamed (path : String) :
    path ∉ twiceNamed.session.state.stage.changes.deleted := by
  rw [changes_twiceNamed]
  exact List.not_mem_nil

theorem lastAt_twiceNamed :
    lastAt twiceNamed.session.root ⟨[0x2F, 0x77], [[0x61]]⟩
        twiceNamed.session.state.stage.changes.files =
      some ⟨"./a", "2", .ofFile "place" "./a"⟩ := by
  rw [changes_twiceNamed, root_twiceNamed]
  simp [lastAt, inWorkspace?_twiceNamed.2]

theorem accepted_as_shown_twiceNamed :
    let r' := (exec (acceptChanges .sound) twiceNamed).2
    (blank.Linkless [] ∧ (exec (acceptChanges .sound) twiceNamed).1 = .ok ⟨2, 0, 0⟩ ∧
      sampleRoot.inWorkspace? "./a" = some ⟨[0x2F, 0x77], [[0x61]]⟩) ∧
      ∃ bytes, r'.world.staged.read (.ofFile "place" "./a") = some bytes ∧
        r'.world.files.readFile ⟨[0x2F, 0x77], [[0x61]]⟩ = .ok bytes := by
  intro r'
  have hplace := inWorkspace?_twiceNamed.2
  refine ⟨⟨linkless_blank, acceptChanges_twiceNamed, hplace⟩, ?_⟩
  refine accepted_as_shown .sound twiceNaming {} sampleRoot "tab" () sample
    [.preload "task", .send "message", .generateCode, .edit blank] []
    linkless_blank (.inl rfl) ⟨2, 0, 0⟩ r' (Prod.ext acceptChanges_twiceNamed rfl)
    ⟨"./a", "2", .ofFile "place" "./a"⟩ ?_ _ hplace ?_ ?_
  · change _ ∈ twiceNamed.session.state.stage.changes.files
    rw [changes_twiceNamed]
    exact .tail _ (.head _)
  · exact fun path hpath => absurd hpath (not_mem_deleted_twiceNamed path)
  · have hlast := lastAt_twiceNamed
    rw [root_twiceNamed] at hlast
    exact congrArg _ hlast

/-- The file that was named first is staged under an address of its own, and overwritten in the
workspace by the one that was named last. -/
theorem accepted_over :
    let r' := (exec (acceptChanges .sound) twiceNamed).2
    (exec (acceptChanges .sound) twiceNamed).1 = .ok ⟨2, 0, 0⟩ ∧
      ⟨"a", "1", .ofFile "place" "a"⟩ ∈ twiceNamed.session.state.stage.changes.files ∧
      sampleRoot.inWorkspace? "a" = some ⟨[0x2F, 0x77], [[0x61]]⟩ ∧
      r'.world.staged.read (.ofFile "place" "a") = some "1".toUTF8 ∧
      r'.world.files.readFile ⟨[0x2F, 0x77], [[0x61]]⟩ = .ok "2".toUTF8 ∧
      "1".toUTF8 ≠ "2".toUTF8 := by
  intro r'
  have hread : r'.world.staged.read (.ofFile "place" "a") = some "1".toUTF8 := by
    have hstaged : twiceNamed.world.staged =
        Store.empty.registerAll twiceNamed.session.state.stage.changes.files := by
      rw [twiceNamed_eq, twiceNaming, planned_obliging]
      rfl
    rw [staged_acceptChanges, hstaged, Store.read_registerAll, changes_twiceNamed]
    decide +kernel
  have hfile := stores_of_acceptChanges (p := ⟨[0x2F, 0x77], [[0x61]]⟩) (.inl linkless_blank)
    (Prod.ext acceptChanges_twiceNamed rfl) lastAt_twiceNamed
    fun path hpath => absurd hpath (not_mem_deleted_twiceNamed path)
  have hnamed : ⟨"a", "1", .ofFile "place" "a"⟩ ∈ twiceNamed.session.state.stage.changes.files := by
    rw [changes_twiceNamed]
    exact .head _
  exact ⟨acceptChanges_twiceNamed, hnamed, inWorkspace?_twiceNamed.1, hread, hfile.readFile,
    by decide +kernel⟩

end Codewright.Session
