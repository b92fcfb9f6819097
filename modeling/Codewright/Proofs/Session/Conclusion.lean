import Codewright.Proofs.Session.CodeResult

/-!
# How a round ends

If nothing fails on the way, the last status that the service gives decides what comes of a round:
the files of the job, or else nothing.
-/

namespace Codewright.Session

open Service (Export JobStatus)
open Staging (StagedFile)
open Transcript
open Workspace (ArchiveFormat FileSystem Snapshot)

namespace LogEntry

/-- The status that the service gives. -/
def status? : LogEntry → Option JobStatus
  | .call (.getCodeGeneration _ _) (.ok text) => some (JobStatus.ofText text)
  | _ => none

/-- No call fails, and no status says that a job has failed or is one that is not known. -/
def isSmooth : LogEntry → Bool
  | .call _ (.error _) => false
  | .call (.getCodeGeneration _ _) (.ok text) =>
    (JobStatus.ofText text).isPending || JobStatus.ofText text = .complete
  | _ => true

end LogEntry

/-- The last status that the service gives. -/
def lastStatus? (t : List LogEntry) : Option JobStatus :=
  (t.filterMap LogEntry.status?).getLast?

/-- What a transcript tells about the job of an upload agrees with the changes that come of it. -/
inductive Concluded (uploadId : String) (t : List LogEntry) : Changes → Prop where
  | complete {archive : Export} : lastStatus? t = some .complete →
      t.filterMap LogEntry.archive? = [archive] →
      t.filterMap LogEntry.codeResult? =
        [⟨archive.files.map (·.path), archive.deleted, uploadId⟩] →
      Concluded uploadId t
        ⟨archive.files.map (StagedFile.ofGenerated uploadId), archive.deleted⟩
  | stopped : lastStatus? t ≠ some .complete → t.filterMap LogEntry.codeResult? = [] →
      Concluded uploadId t {}

namespace Transcript

variable {c : Context} {format : ArchiveFormat} {fs : FileSystem} {s s' : State}
  {iteration : UInt32}
  {message : Option String} {t u : List LogEntry} {files : List StagedFile}

theorem lastStatus?_append (h : u.filterMap LogEntry.status? = []) :
    lastStatus? (t ++ u) = lastStatus? t := by
  rw [lastStatus?, List.filterMap_append, h, List.append_nil, lastStatus?]

/-- A status that the job still runs is not the last one if there is another. -/
theorem lastStatus?_cons_of_isPending (conversationId id : String) (pauseMs : Nat)
    (t : List LogEntry) {text : String} (h : (JobStatus.ofText text).isPending = true) :
    lastStatus? (.call (.getCodeGeneration conversationId id) (.ok text) :: .waited pauseMs :: t) =
      some .complete ↔ lastStatus? t = some .complete := by
  have hcons : lastStatus?
      (.call (.getCodeGeneration conversationId id) (.ok text) :: .waited pauseMs :: t) =
      some ((lastStatus? t).getD (JobStatus.ofText text)) :=
    List.getLast?_cons
  rw [hcons]
  cases lastStatus? t with
  | some status => rfl
  | none =>
      refine ⟨fun hc => ?_, nofun⟩
      rw [show JobStatus.ofText text = .complete from Option.some.inj hc] at h
      cases h

theorem Upload.concluded_append {res : Except Error String} {uploadId : String}
    {changes : Changes} (h : Upload format c fs t res) (hu : Concluded uploadId u changes) :
    Concluded uploadId (t ++ u) changes := by
  obtain ⟨hc, ha⟩ := h.unannounced
  have hs : t.filterMap LogEntry.status? = [] := by
    cases h with
    | unreadable | refused | broken | done => rfl
  have hlast : lastStatus? (t ++ u) = lastStatus? u := by
    rw [lastStatus?, List.filterMap_append, hs, List.nil_append, lastStatus?]
  cases hu with
  | complete h₁ h₂ h₃ =>
      refine .complete (hlast.trans h₁) ?_ ?_
      · rw [List.filterMap_append, ha, List.nil_append, h₂]
      · rw [List.filterMap_append, hc, List.nil_append, h₃]
  | stopped h₁ h₂ =>
      refine .stopped (fun h => h₁ (hlast.symm.trans h)) ?_
      rw [List.filterMap_append, hc, List.nil_append, h₂]

/-- Without a failure, waiting ends with the files of a job whose last status is that it is
complete, with cancellation, or at the limit. -/
theorem Poll.concluded {pauseMs n : Nat} {job : Job} {res : Except Error JobResult}
    (h : Poll pauseMs job n t res) (ht : ∀ e ∈ t, e.isSmooth = true) :
    (∃ changes, res = .ok (.complete changes) ∧ lastStatus? t = some .complete) ∨
      res = .ok .cancelled ∧ lastStatus? t ≠ some .complete ∨ res = .error .codeGenTimeout := by
  induction h with
  | cancelled => exact .inr (.inl ⟨rfl, nofun⟩)
  | timeout => exact .inr (.inr rfl)
  | refused => cases ht _ (.head _)
  | @pending n text t res hp _ ih =>
      have hlast := lastStatus?_cons_of_isPending job.conversationId job.id pauseMs t hp
      refine (ih fun e he => ht e (.tail _ (.tail _ he))).imp ?_ (.imp_left ?_)
      · rintro ⟨changes, hres, hl⟩
        exact ⟨changes, hres, hlast.mpr hl⟩
      · rintro ⟨hres, hl⟩
        exact ⟨hres, fun h => hl (hlast.mp h)⟩
  | @failed n text hf =>
      have h := ht _ (.head _)
      simp only [LogEntry.isSmooth] at h
      cases hs : JobStatus.ofText text with
      | complete | inProgress | predictReady | unknown =>
          rw [hs] at hf
          cases hf
      | failed | predictFailed | debateFailed =>
          rw [hs] at h
          cases h
  | @unknown n text raw hu =>
      have h := ht _ (.head _)
      simp only [LogEntry.isSmooth, hu] at h
      cases h
  | lost => cases ht _ (.tail _ (.head _))
  | @complete n text result hc =>
      refine .inl ⟨_, rfl, ?_⟩
      rw [← hc]
      rfl

theorem Generation.concluded {uploadId : String} {res : Except Error Changes}
    (h : Generation s c message t res) (hc : c.uploadId = some uploadId)
    (ht : ∀ e ∈ t, e.isSmooth = true) (hres : res ≠ .error .codeGenTimeout) :
    ∃ changes, res = .ok changes ∧ Concluded uploadId t changes := by
  cases h with
  | noUpload h =>
      rw [hc] at h
      cases h
  | refused => cases ht _ (.head _)
  | @failed _ id t e _ poll =>
      rcases poll.concluded fun e he => ht e (.tail _ (.tail _ he)) with
        ⟨_, h, -⟩ | ⟨h, -⟩ | h
      · cases h
      · cases h
      · cases h
        exact absurd rfl hres
  | @cancelled _ id t _ poll =>
      rcases poll.concluded fun e he => ht e (.tail _ (.tail _ he)) with
        ⟨_, h, -⟩ | ⟨-, hl⟩ | h
      · cases h
      · exact ⟨{}, rfl, .stopped hl poll.unannounced⟩
      · cases h
  | @complete uploadId' id t changes hc' poll =>
      obtain rfl : uploadId = uploadId' := Option.some.inj (hc.symm.trans hc')
      have hsmooth : ∀ e ∈ t, e.isSmooth = true :=
        fun e he => ht e (.tail _ (.tail _ (List.mem_append_left _ he)))
      rcases poll.concluded hsmooth with ⟨_, h, hl⟩ | ⟨h, -⟩ | h
      · obtain ⟨archive, ha, rfl⟩ := poll.exported rfl
        refine ⟨_, rfl, .complete ?_ ?_ ?_⟩
        · exact (lastStatus?_append rfl).trans hl
        · change (t ++ changesShown s.tabId uploadId _).filterMap _ = _
          rw [List.filterMap_append, ha]
          rfl
        · change (t ++ changesShown s.tabId uploadId _).filterMap _ = _
          rw [List.filterMap_append, poll.unannounced, List.nil_append]
          exact codeResult?_changesShown ..
      · cases h
      · cases h

theorem Round.concluded {uploadId : String} {keep : Changes → Stage} {res : Except Error Outcome}
    (h : Round s c iteration message keep t files s' res) (hc : c.uploadId = some uploadId)
    (ht : ∀ e ∈ t, e.isSmooth = true) (hres : res ≠ .error .codeGenTimeout) :
    ∃ token changes, res = .ok ⟨⟨.reviewing c (iteration + 1) changes, s.approach, s.tabId, token⟩,
      none⟩ ∧ files = changes.files ∧ Concluded uploadId t changes := by
  cases h with
  | failed generation =>
      obtain ⟨_, h, -⟩ := generation.concluded hc ht fun h => hres (by cases h; rfl)
      cases h
  | done token generation =>
      obtain ⟨_, h, concluded⟩ := generation.concluded hc ht nofun
      cases h
      exact ⟨token, _, rfl, rfl, concluded⟩

theorem Regeneration.concluded {uploadId text : String} {res : Except Error Outcome}
    (h : Regeneration s c iteration message t files s' res) (hm : userMessage message = .ok text)
    (hc : c.uploadId = some uploadId) (ht : ∀ e ∈ t, e.isSmooth = true)
    (hres : res ≠ .error .codeGenTimeout) :
    ∃ token changes, res = .ok ⟨⟨.reviewing c (iteration + 1) changes, s.approach, s.tabId, token⟩,
      none⟩ ∧ files = changes.files ∧ Concluded uploadId t changes := by
  cases h with
  | noMessage h =>
      rw [hm] at h
      cases h
  | sent _ round => exact round.concluded hc ht hres

end Transcript

/-! ## Stages that have code generated -/

/-- The stage has code generated for this message. -/
def Stage.Generates (message : Option String) : Stage → Prop
  | generating c _ _ => c.uploadId.isSome
  | reviewing _ _ _ => ∃ text, userMessage message = .ok text
  | regenerating c _ _ => c.uploadId.isSome ∧ ∃ text, userMessage message = .ok text
  | notStarted | awaitingTask _ | drafting _ _ | revising _ _ | mocking _ _ _ => False

/-- The stage can upload the workspace, if it does so. -/
def Stage.CanUpload (format : ArchiveFormat) (fs : FileSystem) : Stage → Prop
  | awaitingTask c | reviewing c _ _ =>
    ∃ snapshot, Snapshot.take format fs c.root c.maxRepoSizeBytes = .ok snapshot
  | notStarted | drafting _ _ | revising _ _ | generating _ _ _ | mocking _ _ _
  | regenerating _ _ _ => True

/-- Without a failure, a stage that has code generated hands over what its last status decides. -/
theorem Transcript.Interaction.concluded {format : ArchiveFormat} {fs : FileSystem} {s s' : State}
    {message : Option String} {t : List LogEntry} {files : List StagedFile}
    {res : Except Error Outcome}
    (h : Interaction format fs s message t files s' res) (hs : s.stage.Generates message)
    (hfs : s.stage.CanUpload format fs) (ht : ∀ e ∈ t, e.isSmooth = true)
    (hres : res ≠ .error .codeGenTimeout) :
    ∃ outcome c n changes uploadId, res = .ok outcome ∧
      outcome.next.stage = .reviewing c n changes ∧ c.uploadId = some uploadId ∧
      files = changes.files ∧ Concluded uploadId t changes := by
  cases h with
  | tooEarly hst | noTask hst | noUpload hst | begun hst | drafted hst | revised hst | diverted hst
  | mocked hst =>
      rw [hst] at hs
      exact hs.elim
  | @generated c iteration _ _ _ _ _ hst round =>
      rw [hst] at hs
      obtain ⟨uploadId, hc⟩ := Option.isSome_iff_exists.mp hs
      obtain ⟨token, changes, hok, hfiles, concluded⟩ := round.concluded hc ht hres
      exact ⟨_, c, iteration + 1, changes, uploadId, hok, rfl, hc, hfiles, concluded⟩
  | noFeedback hst h =>
      rw [hst] at hs
      obtain ⟨text, hm⟩ := hs
      rw [hm] at h
      cases h
  | noReupload hst _ upload =>
      rw [hst] at hfs
      obtain ⟨snapshot, hsnapshot⟩ := hfs
      cases upload with
      | unreadable h =>
          rw [hsnapshot] at h
          cases h
      | refused => cases ht _ (.head _)
      | broken => cases ht _ (.tail _ (.head _))
  | @reworked c iteration _ id t u _ _ _ _ hst upload regeneration =>
      rw [hst] at hs
      obtain ⟨text, hm⟩ := hs
      obtain ⟨token, changes, hok, hfiles, concluded⟩ := regeneration.concluded hm rfl
        (fun e he => ht e (List.mem_append_right _ he)) hres
      exact ⟨_, c.withUploadId id, iteration + 1, changes, id, hok, rfl, rfl, hfiles,
        upload.concluded_append concluded⟩
  | @regenerated c iteration _ _ _ _ _ hst regeneration =>
      rw [hst] at hs
      obtain ⟨hsome, text, hm⟩ := hs
      obtain ⟨uploadId, hc⟩ := Option.isSome_iff_exists.mp hsome
      obtain ⟨token, changes, hok, hfiles, concluded⟩ := regeneration.concluded hm hc ht hres
      exact ⟨_, c, iteration + 1, changes, uploadId, hok, rfl, hc, hfiles, concluded⟩

end Codewright.Session
