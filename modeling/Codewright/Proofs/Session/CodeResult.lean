import Codewright.Proofs.Session.Transitions
import Codewright.Proofs.Staging

/-!
# Announced code

A round of code generation leaves four records: the archive that the service exports, the staged
files, the event that announces them, and the state that waits for feedback. They agree.
-/

namespace Codewright.Session

open Service (Export GeneratedFile)
open Staging (StagedFile Uri)
open Transcript
open Workspace (ArchiveFormat FileSystem)

variable {σ : Type}

/-- What the user is told about generated code. -/
structure CodeResult where
  filePaths : List String
  deleted : List String
  uploadId : String
  deriving DecidableEq

namespace LogEntry

/-- The generated code that the user is told about. -/
def codeResult? : LogEntry → Option CodeResult
  | .event (.codeResult filePaths deleted _ uploadId) => some ⟨filePaths, deleted, uploadId⟩
  | _ => none

/-- The archive that the service has exported. -/
def archive? : LogEntry → Option Export
  | .call (.exportResult _) (.ok archive) => some archive
  | _ => none

end LogEntry

/-- What a transcript tells about generated code agrees with the files that are staged, and with the
stage that takes over, if there is one. -/
inductive Accounted (fs : FileSystem) (c? : Option Context) (t : List LogEntry)
    (files : List StagedFile) : Option Stage → Prop where
  | nothing {next : Option Stage} : t.filterMap LogEntry.codeResult? = [] → files = [] →
      Accounted fs c? t files next
  | generated {next : Stage} {uploadId : String} {archive : Export} :
      t.filterMap LogEntry.codeResult? =
        [⟨archive.files.map (·.path), archive.deleted, uploadId⟩] →
      t.filterMap LogEntry.archive? = [archive] →
      files = archive.files.map (StagedFile.ofGenerated uploadId) →
      next.changes = ⟨files, archive.deleted⟩ → Accounted fs c? t files (some next)
  | mocked {next : Stage} {c : Context} {uploadId : String} {round : List GeneratedFile} :
      t.filterMap LogEntry.codeResult? = [⟨round.map (·.path), [], uploadId⟩] →
      t.filterMap LogEntry.archive? = [] → c? = some c →
      mockFiles fs c.root = .ok round → files = round.map (StagedFile.ofGenerated uploadId) →
      Accounted fs c? t files (some next)

variable {format : ArchiveFormat} {fs : FileSystem} {c? : Option Context} {t u : List LogEntry}
  {files : List StagedFile}

/-- Entries around a transcript that are not about generated code change nothing. -/
theorem Accounted.around {next : Option Stage} (h : Accounted fs c? u files next)
    (hc : t.filterMap LogEntry.codeResult? = u.filterMap LogEntry.codeResult?)
    (ha : t.filterMap LogEntry.archive? = u.filterMap LogEntry.archive?) :
    Accounted fs c? t files next := by
  match h with
  | .nothing h₁ h₂ => exact .nothing (hc.trans h₁) h₂
  | .generated h₁ h₂ h₃ h₄ => exact .generated (hc.trans h₁) (ha.trans h₂) h₃ h₄
  | .mocked h₁ h₂ h₃ h₄ h₅ => exact .mocked (hc.trans h₁) (ha.trans h₂) h₃ h₄ h₅

/-- The stage that takes over. -/
def nextStage? : Except Error Outcome → Option Stage
  | .ok outcome => some outcome.next.stage
  | .error _ => none

/-! ## Interactions -/

namespace Transcript

variable {c : Context} {s s' : State} {message : Option String} {iteration : UInt32}

theorem Upload.unannounced {res : Except Error String} (h : Upload format c fs t res) :
    t.filterMap LogEntry.codeResult? = [] ∧ t.filterMap LogEntry.archive? = [] := by
  cases h with
  | unreadable | refused | broken | done => exact ⟨rfl, rfl⟩

theorem Upload.accounted_append {res : Except Error String} {next : Option Stage}
    (h : Upload format c fs t res) (hu : Accounted fs c? u files next) :
    Accounted fs c? (t ++ u) files next := by
  obtain ⟨hc, ha⟩ := h.unannounced
  refine hu.around ?_ ?_
  · rw [List.filterMap_append, hc, List.nil_append]
  · rw [List.filterMap_append, ha, List.nil_append]

theorem Plan.unannounced {text : String} {res : Except Error String} (h : Plan c text t res) :
    t.filterMap LogEntry.codeResult? = [] := by
  cases h with
  | noUpload | refused | done => rfl

theorem Poll.unannounced {pauseMs n : Nat} {job : Job} {res : Except Error JobResult}
    (h : Poll pauseMs job n t res) : t.filterMap LogEntry.codeResult? = [] := by
  induction h with
  | pending _ _ ih => exact ih
  | cancelled | timeout | refused | failed | unknown | lost | complete => rfl

theorem Poll.exported {pauseMs n : Nat} {job : Job} {res : Except Error JobResult}
    {changes : Changes} (h : Poll pauseMs job n t res) (hres : res = .ok (.complete changes)) :
    ∃ archive : Export, t.filterMap LogEntry.archive? = [archive] ∧
      changes = ⟨archive.files.map (StagedFile.ofGenerated job.uploadId), archive.deleted⟩ := by
  induction h with
  | pending _ _ ih => exact ih hres
  | @complete n text archive =>
      cases hres
      exact ⟨archive, rfl, rfl⟩
  | cancelled | timeout | refused | failed | unknown | lost => cases hres

theorem codeResult?_changesShown (tabId uploadId : String) (round : List GeneratedFile)
    (deleted : List String) :
    (changesShown tabId uploadId
      ⟨round.map (StagedFile.ofGenerated uploadId), deleted⟩).filterMap LogEntry.codeResult? =
      [⟨round.map (·.path), deleted, uploadId⟩] := by
  have hpaths : (round.map (StagedFile.ofGenerated uploadId)).map (·.path) =
      round.map (·.path) := by
    rw [List.map_map]
    rfl
  rw [← hpaths]
  rfl

theorem Generation.accounted {next : Option Stage} {e : Error}
    (h : Generation s c message t (.error e)) : Accounted fs c? t [] next := by
  cases h with
  | noUpload | refused => exact .nothing rfl rfl
  | failed _ poll => exact .nothing poll.unannounced rfl

theorem Generation.accounted_ok {next : Stage} {changes : Changes}
    (h : Generation s c message t (.ok changes)) (hnext : next.changes = changes) :
    Accounted fs c? t changes.files (some next) := by
  cases h with
  | cancelled _ poll => exact .nothing poll.unannounced rfl
  | @complete uploadId id t changes _ poll =>
      obtain ⟨archive, ha, rfl⟩ := poll.exported rfl
      refine .generated ?_ ?_ rfl hnext
      · change (t ++ changesShown s.tabId uploadId _).filterMap _ = _
        rw [List.filterMap_append, poll.unannounced, List.nil_append]
        exact codeResult?_changesShown ..
      · change (t ++ changesShown s.tabId uploadId _).filterMap _ = _
        rw [List.filterMap_append, ha]
        rfl

theorem Round.accounted {keep : Changes → Stage} {res : Except Error Outcome}
    (h : Round s c iteration message keep t files s' res) :
    Accounted fs c? t files (nextStage? res) := by
  match h with
  | .failed generation => exact generation.accounted
  | .done _ generation => exact generation.accounted_ok rfl

theorem Regeneration.accounted {res : Except Error Outcome}
    (h : Regeneration s c iteration message t files s' res) :
    Accounted fs c? t files (nextStage? res) := by
  match h with
  | .noMessage _ => exact .nothing rfl rfl
  | .sent _ round => exact round.accounted

theorem Draft.accounted {res : Except Error Outcome} {next : Option Stage}
    (h : Draft s c iteration message t s' res) : Accounted fs c? t [] next := by
  match h with
  | .noMessage _ => exact .nothing rfl rfl
  | .failed _ plan => exact .nothing plan.unannounced rfl
  | .done _ _ plan =>
      exact .nothing (by simp [planShown, LogEntry.codeResult?, plan.unannounced]) rfl

theorem Mock.accounted {uploadId : String} {outcome : Outcome}
    (h : Mock fs s c uploadId t files s' outcome) :
    Accounted fs (some c) t files (some outcome.next.stage) := by
  match h with
  | .unreadable _ _ => exact .nothing rfl rfl
  | .shown _ found rfl =>
      exact .mocked (codeResult?_changesShown ..) rfl rfl found rfl

theorem Interaction.accounted {res : Except Error Outcome}
    (h : Interaction format fs s message t files s' res) :
    Accounted fs s.stage.context? t files (nextStage? res) := by
  match h with
  | .tooEarly _ | .noTask _ _ | .noFeedback _ _ => exact .nothing rfl rfl
  | .noUpload _ _ upload | .noReupload _ _ upload => exact .nothing upload.unannounced.1 rfl
  | .begun _ upload draft => exact upload.accounted_append draft.accounted
  | .drafted _ draft | .revised _ _ draft => exact draft.accounted
  | .diverted hst _ mock | .mocked hst mock =>
      rw [hst]
      exact mock.accounted
  | .generated _ round => exact round.accounted
  | .reworked _ upload regeneration => exact upload.accounted_append regeneration.accounted
  | .regenerated _ regeneration => exact regeneration.accounted

/-! ## Moves -/

/-- The stage of a session after something that can fail. -/
def stageOnSuccess {α : Type} (x' : Session) : Except Error α → Option Stage
  | .ok _ => some x'.state.stage
  | .error _ => none

theorem stageOnSuccess_map {α β : Type} (x' : Session) (f : α → β) (res : Except Error α) :
    stageOnSuccess x' (res.map f) = stageOnSuccess x' res := by
  cases res with
  | ok | error => rfl

variable {tokens : Tokens} {x x' : Session}

theorem Forward.accounted {res : Except Error (Option String)}
    (h : Forward format fs tokens x message t files x' res) :
    Accounted fs x.state.stage.context? t files (stageOnSuccess x' res) := by
  rcases h.outcome with ⟨token, e, u, rfl, rfl, rfl, -, interaction, rfl⟩ |
    ⟨s', outcome, u, rfl, rfl, interaction, rfl⟩
  all_goals
    refine interaction.accounted.around ?_ ?_
    all_goals
      change (u ++ [LogEntry.event _]).filterMap _ = _
      rw [List.filterMap_append]
      exact List.append_nil _

theorem Acceptance.context_eq (h : Acceptance x x' (.ok ⟨⟩)) :
    x'.state.stage.context? = x.state.stage.context? := by
  cases h with
  | before => rfl
  | now _ hst _ =>
      rw [hst]
      rfl

theorem Step.accounted {m : Move} {res : Except Error Reply}
    (h : Step format fs tokens x m t files x' res) :
    Accounted fs x.state.stage.context? t files (stageOnSuccess x' res) := by
  cases h with
  | startedBefore | notStarted | started | accepted | notAccepted | notWritten | written | handled
  | cancelled | edited => exact .nothing rfl rfl
  | sent forward | retried forward =>
      rw [stageOnSuccess_map]
      exact forward.accounted
  | generated acceptance forward =>
      rw [stageOnSuccess_map, ← acceptance.context_eq]
      refine forward.accounted.around ?_ ?_
      all_goals
        change (_ ++ [LogEntry.event _, LogEntry.event _]).filterMap _ = _
        rw [List.filterMap_append]
        exact List.append_nil _

end Transcript

/-- A move announces generated code at most once. If it does not, nothing is staged. If it does, it
succeeds, the announced files are staged under the announced id, and they are those of the archive
that the service has exported and of the state that takes over, or else of the workspace. -/
theorem announcement_agrees (env : Environment σ) (m : Move) (r : Running σ) :
    let r' := (exec (m.perform env) r).2
    ∃ t : List LogEntry, r'.world.log = t.reverse ++ r.world.log ∧
      (t.filterMap LogEntry.codeResult? = [] ∧ r'.world.staged = r.world.staged ∨
        ∃ (uploadId : String) (round : List GeneratedFile) (deleted : List String),
          t.filterMap LogEntry.codeResult? = [⟨round.map (·.path), deleted, uploadId⟩] ∧
          (∃ reply, (exec (m.perform env) r).1 = .ok reply) ∧
          r'.world.staged.read = Staging.overlay uploadId round r.world.staged.read ∧
          ((∃ archive, t.filterMap LogEntry.archive? = [archive] ∧ round = archive.files ∧
              deleted = archive.deleted ∧ r'.session.state.stage.changes =
                ⟨round.map (StagedFile.ofGenerated uploadId), deleted⟩) ∨
            t.filterMap LogEntry.archive? = [] ∧ deleted = [] ∧
              ∃ c, r.session.state.stage.context? = some c ∧
                mockFiles r.world.files c.root = .ok round)) := by
  obtain ⟨t, files, x', res, w', hrun, step, hlog, hs, -⟩ := perform_spec env m r.session r.world
  rw [hrun]
  refine ⟨t, hlog, ?_⟩
  cases res with
  | error e =>
      cases step.accounted with
      | nothing hc hf =>
          subst hf
          exact .inl ⟨hc, hs⟩
  | ok reply =>
      cases step.accounted with
      | nothing hc hf =>
          subst hf
          exact .inl ⟨hc, hs⟩
      | @generated _ uploadId archive hc ha hf hchanges =>
          subst hf
          refine .inr ⟨uploadId, archive.files, archive.deleted, hc, ⟨reply, rfl⟩, ?_,
            .inl ⟨archive, ha, rfl, rfl, hchanges⟩⟩
          rw [hs, Staging.Store.read_registerAll_ofGenerated]
      | @mocked _ c uploadId round hc ha hcontext hround hf =>
          subst hf
          refine .inr ⟨uploadId, round, [], hc, ⟨reply, rfl⟩, ?_,
            .inr ⟨ha, rfl, c, hcontext, hround⟩⟩
          rw [hs, Staging.Store.read_registerAll_ofGenerated]

end Codewright.Session
