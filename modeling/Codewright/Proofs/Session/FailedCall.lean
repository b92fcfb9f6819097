import Codewright.Proofs.Session.Reachable
import Codewright.Proofs.Session.Snapshot

/-!
# Failed calls

A call that fails ends what it was made for. Nothing is asked for after it, nothing is asked for
once more, and the error tells which call it was and what the service said.
-/

namespace Codewright.Service

/-- What a call is for. -/
inductive Call.Kind where
  | createConversation
  | createUploadUrl
  | upload
  | generatePlan
  | startCodeGeneration
  | getCodeGeneration
  | exportResult
  deriving DecidableEq

/-- What a call is for, whatever it carries. -/
def Call.kind : Call → Call.Kind
  | createConversation => .createConversation
  | createUploadUrl _ _ => .createUploadUrl
  | upload _ _ _ _ => .upload
  | generatePlan _ _ _ => .generatePlan
  | startCodeGeneration _ _ _ => .startCodeGeneration
  | getCodeGeneration _ _ => .getCodeGeneration
  | exportResult _ => .exportResult

end Codewright.Service

namespace Codewright.Session

open Service (Call)
open Staging (StagedFile)
open Transcript
open Workspace (ArchiveFormat FileSystem)

variable {α σ : Type}

/-- The error that the failure of a call becomes. -/
def Error.ofCall (cause : Service.Error) : Call → Error
  | .createConversation => .serverSide .conversation cause
  | .createUploadUrl _ _ => .serverSide .upload cause
  | .upload _ _ _ _ => .uploadCode cause
  | .generatePlan _ _ _ => .serverSide .approach cause
  | .startCodeGeneration _ _ _ | .getCodeGeneration _ _ | .exportResult _ =>
    .serverSide .codeGen cause

/-- The error of a result. -/
def errorOf : Except Error α → Option Error
  | .ok _ => none
  | .error e => some e

theorem errorOf_eq_some {res : Except Error α} {e : Error} (h : errorOf res = some e) :
    res = .error e := by
  cases res with
  | ok => cases h
  | error => exact congrArg Except.error (Option.some.inj h)

/-! ## Where a failure ends a transcript -/

/-- A call that fails is the last entry, and `error` is what comes of it. -/
def EndsAtFailure (error : Option Error) : List LogEntry → Prop
  | [] => True
  | .call c (.error cause) :: t => t = [] ∧ error = some (.ofCall cause c)
  | _ :: t => EndsAtFailure error t

namespace EndsAtFailure

variable {error : Option Error} {t u v : List LogEntry}

/-- Behind a part without an error, which no call fails in, anything can follow. -/
theorem append (h : EndsAtFailure none t) (hu : EndsAtFailure error u) :
    EndsAtFailure error (t ++ u) := by
  induction t with
  | nil => exact hu
  | cons entry t ih =>
      match entry with
      | .call c (.error cause) => cases h.2
      | .call c (.ok answer) | .event e | .waited ms => exact ih h

theorem of_split {c : Call} {cause : Service.Error}
    (h : EndsAtFailure error (u ++ .call c (.error cause) :: v)) :
    v = [] ∧ error = some (.ofCall cause c) := by
  induction u with
  | nil => exact h
  | cons entry u ih =>
      match entry with
      | .call c (.error cause) => cases List.append_eq_nil_iff.mp h.1 |>.2
      | .call c (.ok answer) | .event e | .waited ms => exact ih h

end EndsAtFailure

/-! ## The order of calls in an interaction -/

/-- What the call of an entry is for. -/
def LogEntry.callKind? : LogEntry → Option Call.Kind
  | .call c _ => some c.kind
  | _ => none

/-- The calls of an upload. -/
def uploadCalls : List Call.Kind :=
  [.createUploadUrl, .upload]

/-- The calls of a job that is started and asked for its status `n` times. -/
def jobCalls (n : Nat) : List Call.Kind :=
  .startCodeGeneration :: (List.replicate n .getCodeGeneration ++ [.exportResult])

/-- All calls that an interaction with a limit of `n` questions can make, in their order. -/
def interactionCalls (n : Nat) : List Call.Kind :=
  uploadCalls ++ .generatePlan :: jobCalls n

/-- The number of questions about a job that a stage can ask. -/
def Stage.maxIterations (s : Stage) : Nat :=
  (s.context?.map (·.polling.maxIterations)).getD 0

namespace Transcript

variable {c : Context} {format : ArchiveFormat} {fs : FileSystem} {s s' : State}
  {iteration : UInt32}
  {message : Option String} {t : List LogEntry} {files : List StagedFile}

/-- A transcript ends where a call fails, and its calls are some of `calls`, in their order. -/
structure Orderly (calls : List Call.Kind) (t : List LogEntry) (res : Except Error α) : Prop where
  ends : EndsAtFailure (errorOf res) t
  calls : (t.filterMap LogEntry.callKind?).Sublist calls

namespace Orderly

variable {calls more : List Call.Kind} {u : List LogEntry} {β : Type} {res : Except Error β}

theorem nil (res : Except Error α) : Orderly calls [] res :=
  ⟨trivial, List.nil_sublist _⟩

theorem mono (h : Orderly calls t res) (hc : calls.Sublist more) : Orderly more t res :=
  ⟨h.ends, h.calls.trans hc⟩

theorem append {a : α} (h : Orderly calls t (.ok a : Except Error α)) (hu : Orderly more u res) :
    Orderly (calls ++ more) (t ++ u) res := by
  refine ⟨h.ends.append hu.ends, ?_⟩
  rw [List.filterMap_append]
  exact h.calls.append hu.calls

end Orderly

theorem Upload.orderly {res : Except Error String} (h : Upload format c fs t res) :
    Orderly uploadCalls t res := by
  cases h with
  | unreadable => exact .nil _
  | refused => exact ⟨⟨rfl, rfl⟩, .cons_cons _ (List.nil_sublist _)⟩
  | broken => exact ⟨⟨rfl, rfl⟩, List.Sublist.refl _⟩
  | done => exact ⟨trivial, List.Sublist.refl _⟩

theorem Plan.orderly {text : String} {res : Except Error String} (h : Plan c text t res) :
    Orderly [.generatePlan] t res := by
  cases h with
  | noUpload => exact .nil _
  | refused => exact ⟨⟨rfl, rfl⟩, List.Sublist.refl _⟩
  | done => exact ⟨trivial, List.Sublist.refl _⟩

theorem Poll.orderly {pauseMs n : Nat} {job : Job} {res : Except Error JobResult}
    (h : Poll pauseMs job n t res) :
    Orderly (List.replicate n .getCodeGeneration ++ [.exportResult]) t res := by
  have asked : ∀ {n : Nat}, [Call.Kind.getCodeGeneration].Sublist
      (List.replicate (n + 1) .getCodeGeneration ++ [.exportResult]) :=
    .cons_cons _ (List.nil_sublist _)
  have exported : ∀ {n : Nat}, [Call.Kind.getCodeGeneration, .exportResult].Sublist
      (List.replicate (n + 1) .getCodeGeneration ++ [.exportResult]) :=
    .cons_cons _ (List.sublist_append_right _ _)
  induction h with
  | cancelled | timeout => exact .nil _
  | refused => exact ⟨⟨rfl, rfl⟩, asked⟩
  | pending _ _ ih => exact ⟨ih.ends, ih.calls.cons_cons _⟩
  | failed | unknown => exact ⟨trivial, asked⟩
  | lost => exact ⟨⟨rfl, rfl⟩, exported⟩
  | complete => exact ⟨trivial, exported⟩

theorem Generation.orderly {res : Except Error Changes} (h : Generation s c message t res) :
    Orderly (jobCalls c.polling.maxIterations) t res := by
  cases h with
  | noUpload => exact .nil _
  | refused => exact ⟨⟨rfl, rfl⟩, .cons_cons _ (List.nil_sublist _)⟩
  | failed _ poll | cancelled _ poll => exact ⟨poll.orderly.ends, poll.orderly.calls.cons_cons _⟩
  | @complete uploadId _ t changes _ poll =>
      have shown : Orderly [] (changesShown s.tabId uploadId changes) (.ok changes) :=
        ⟨trivial, List.Sublist.refl _⟩
      have h := poll.orderly.append shown
      rw [List.append_nil] at h
      exact ⟨h.ends, h.calls.cons_cons _⟩

theorem Draft.orderly {res : Except Error Outcome} (h : Draft s c iteration message t s' res) :
    Orderly [.generatePlan] t res := by
  cases h with
  | noMessage => exact .nil _
  | failed _ plan => exact ⟨plan.orderly.ends, plan.orderly.calls⟩
  | @done _ approach _ token _ plan =>
      have shown : ∀ outcome : Outcome, Orderly [] [planShown s.tabId approach] (.ok outcome) :=
        fun _ => ⟨trivial, List.Sublist.refl _⟩
      exact plan.orderly.append (shown _)

theorem Round.orderly {keep : Changes → Stage} {res : Except Error Outcome}
    (h : Round s c iteration message keep t files s' res) :
    Orderly (jobCalls c.polling.maxIterations) t res := by
  match h with
  | .failed generation | .done _ generation =>
      exact ⟨generation.orderly.ends, generation.orderly.calls⟩

theorem Regeneration.orderly {res : Except Error Outcome}
    (h : Regeneration s c iteration message t files s' res) :
    Orderly (jobCalls c.polling.maxIterations) t res := by
  match h with
  | .noMessage _ => exact .nil _
  | .sent _ round => exact round.orderly

theorem Mock.orderly {uploadId : String} {outcome : Outcome}
    (h : Mock fs s c uploadId t files s' outcome) : Orderly [] t (.ok outcome) := by
  match h with
  | .unreadable _ _ => exact .nil _
  | .shown _ _ _ => exact ⟨trivial, List.Sublist.refl _⟩

theorem Interaction.orderly {res : Except Error Outcome}
    (h : Interaction format fs s message t files s' res) :
    Orderly (interactionCalls s.stage.maxIterations) t res := by
  have planned : ∀ {n : Nat}, [Call.Kind.generatePlan].Sublist (.generatePlan :: jobCalls n) :=
    .cons_cons _ (List.nil_sublist _)
  have generated : ∀ {n : Nat}, (jobCalls n).Sublist (.generatePlan :: jobCalls n) :=
    List.sublist_cons_self _ _
  have uploaded : ∀ {n : Nat}, uploadCalls.Sublist (interactionCalls n) :=
    List.sublist_append_left _ _
  have resumed : ∀ {n : Nat}, (.generatePlan :: jobCalls n).Sublist (interactionCalls n) :=
    List.sublist_append_right _ _
  match h with
  | .tooEarly _ | .noTask _ _ | .noFeedback _ _ => exact .nil _
  | .noUpload _ _ upload | .noReupload _ _ upload =>
      exact ⟨upload.orderly.ends, upload.orderly.calls.trans uploaded⟩
  | .begun _ upload draft => exact upload.orderly.append (draft.orderly.mono planned)
  | .drafted _ draft | .revised _ _ draft => exact draft.orderly.mono (planned.trans resumed)
  | .diverted _ _ mock | .mocked _ mock => exact mock.orderly.mono (List.nil_sublist _)
  | .generated hst round =>
      rw [hst]
      exact round.orderly.mono (generated.trans resumed)
  | .reworked hst upload regeneration =>
      rw [hst]
      exact upload.orderly.append (regeneration.orderly.mono generated)
  | .regenerated hst regeneration =>
      rw [hst]
      exact regeneration.orderly.mono (generated.trans resumed)

end Transcript

/-! ## How often a call is made -/

/-- How often a call can be made in an interaction with a limit of `n` questions. -/
def callLimit (n : Nat) : Call.Kind → Nat
  | .createConversation => 0
  | .getCodeGeneration => n
  | .createUploadUrl | .upload | .generatePlan | .startCodeGeneration | .exportResult => 1

theorem count_interactionCalls (n : Nat) (kind : Call.Kind) :
    (interactionCalls n).count kind = callLimit n kind := by
  cases kind <;> simp [interactionCalls, uploadCalls, jobCalls, callLimit, List.count_replicate]

theorem Transcript.Interaction.count_le {format : ArchiveFormat} {fs : FileSystem} {s s' : State}
    {message : Option String}
    {t : List LogEntry} {files : List StagedFile} {res : Except Error Outcome}
    (h : Interaction format fs s message t files s' res) (kind : Call.Kind) :
    (t.filterMap LogEntry.callKind?).count kind ≤ callLimit s.stage.maxIterations kind := by
  rw [← count_interactionCalls]
  exact h.orderly.calls.count_le kind

/-! ## Runs of a state -/

/-- If a call fails it is the last thing that happens, and its error is what comes of it all. -/
def FailsLast (t : List LogEntry) (res : Except Error α) : Prop :=
  ∀ u c cause v, t = u ++ .call c (.error cause) :: v → v = [] ∧ res = .error (.ofCall cause c)

theorem Transcript.Orderly.failsLast {calls : List Call.Kind} {t : List LogEntry}
    {res : Except Error α} (h : Orderly calls t res) : FailsLast t res := by
  rintro u c cause v rfl
  obtain ⟨hv, he⟩ := h.ends.of_split
  exact ⟨hv, errorOf_eq_some he⟩

/-- Starting the conversation is one call, if anything. -/
theorem preload_orderly (env : Environment σ) (message : String) (r : Running σ) :
    ∃ t, (exec (preload env message) r).2.world.log = t.reverse ++ r.world.log ∧
      Orderly [.createConversation] t (exec (preload env message) r).1 := by
  obtain ⟨t, x', res, w', hrun, step, follows⟩ := preload_spec env message r.session r.world
  rw [hrun]
  refine ⟨t, follows.log, ?_⟩
  cases res with
  | error e =>
      cases step with
      | notStarted => exact ⟨⟨rfl, rfl⟩, List.Sublist.refl _⟩
  | ok =>
      cases step with
      | startedBefore => exact .nil _
      | started => exact ⟨trivial, List.Sublist.refl _⟩

/-- Whatever state handles whatever message, nothing is done about a call that fails but to say
which one it was, and no call is made more often than its limit allows. The same goes for the start
of a conversation, which is a single call. -/
theorem failed_call_ends (env : Environment σ) :
    (∀ (message : String) (r : Running σ),
      let r' := exec (preload env message) r
      ∃ t : List LogEntry, r'.2.world.log = t.reverse ++ r.world.log ∧ FailsLast t r'.1 ∧
        (t.filterMap LogEntry.callKind?).Sublist [.createConversation]) ∧
    ∀ (message : Option String) (a : Acting σ),
      let a' := exec (State.interact env message) a
      ∃ t : List LogEntry, a'.2.world.log = t.reverse ++ a.world.log ∧ FailsLast t a'.1 ∧
        ∀ kind, (t.filterMap LogEntry.callKind?).count kind ≤
          callLimit a.state.stage.maxIterations kind := by
  refine ⟨fun message r => ?_, fun message a => ?_⟩
  · obtain ⟨t, hlog, orderly⟩ := preload_orderly env message r
    exact ⟨t, hlog, orderly.failsLast, orderly.calls⟩
  · obtain ⟨t, files, s', res, w', hrun, interaction, follows⟩ :=
      interact_spec env message a.state a.world
    dsimp only
    rw [hrun]
    exact ⟨t, follows.log, interaction.orderly.failsLast, interaction.count_le⟩

/-- A state that feedback can be given to. -/
def awaitingFeedback : State :=
  { stage := .reviewing (sampleContext.withUploadId "place") 1 {}
    tabId := "tab"
    token := ⟨0, []⟩ }

/-- The workspace is uploaded, and the job that the feedback is for is refused. -/
theorem failed_call_ends_refused :
    let env := obliging (.error ⟨.throttled, "refused"⟩) ⟨[], []⟩
    let w : World Unit := { outside := (), files := sample }
    let a' := exec (State.interact env (some "more")) ⟨awaitingFeedback, w⟩
    a'.2.world.log.reverse.filterMap LogEntry.callKind? =
        [.createUploadUrl, .upload, .startCodeGeneration] ∧
      a'.1 = .error (.serverSide .codeGen ⟨.throttled, "refused"⟩) := by
  intro env w a'
  obtain ⟨-, hinteract⟩ := failed_call_ends env
  obtain ⟨t, hlog, hlast, -⟩ := hinteract (some "more") ⟨awaitingFeedback, w⟩
  have ht : t = a'.2.world.log.reverse := by
    rw [hlog]
    simp [w]
  have ha : a' = _ := exec_interact_of_snapshot (c := sampleContext.withUploadId "place") rfl
    take_sample
  have hcalls : ∃ slot sent, a'.2.world.log.reverse = [slot, sent] ++ [.call
      (.startCodeGeneration "conversation" "place" (some "more"))
      (.error ⟨.throttled, "refused"⟩)] := by
    rw [ha]
    exact ⟨_, _, rfl⟩
  obtain ⟨slot, sent, hcalls⟩ := hcalls
  refine ⟨?_, (hlast _ _ _ _ (ht.trans hcalls)).2⟩
  rw [ha]
  rfl

end Codewright.Session
