import Codewright.Proofs.Session.Reachable
import Codewright.Proofs.Session.Snapshot

/-!
# Delivery

What the user says reaches the service, word for word and once. Only where the plan has been
accepted is nothing of it passed on: the code is then generated for the plan alone.
-/

namespace Codewright.Session

open Staging (StagedFile)
open Transcript
open Workspace (ArchiveFormat FileSystem Path)

variable {σ : Type}

/-- The message in a request for a plan or for code, if it has one. -/
def LogEntry.request? : LogEntry → Option (Option String)
  | call (.generatePlan _ _ message) _ => some (some message)
  | call (.startCodeGeneration _ _ message) _ => some message
  | _ => none

/-- What a stage passes on of a message. -/
def Stage.passedOn (message : String) : Stage → Option String
  | generating _ _ _ => none
  | _ => some message

theorem userMessage_eq {m text : String} (h : userMessage (some m) = .ok text) : text = m := by
  unfold userMessage at h
  split at h
  · cases h
  · next heq =>
      split at h
      · cases h
      · cases heq
        exact (Except.ok.inj h).symm

namespace Transcript

variable {format : ArchiveFormat} {fs : FileSystem} {tokens : Tokens} {s s' : State} {c : Context}
  {iteration : UInt32}
  {message : Option String} {m : String} {t : List LogEntry} {files : List StagedFile}
  {outcome : Outcome}

theorem Upload.requests {res : Except Error String} (h : Upload format c fs t res) :
    t.filterMap LogEntry.request? = [] := by
  cases h with
  | unreadable | refused | broken | done => rfl

theorem Plan.requests {approach : String} (h : Plan c m t (.ok approach)) :
    t.filterMap LogEntry.request? = [some m] := by
  cases h with
  | done => rfl

theorem Poll.requests {pauseMs n : Nat} {job : Job} {res : Except Error JobResult}
    (h : Poll pauseMs job n t res) : t.filterMap LogEntry.request? = [] := by
  induction h with
  | pending _ _ ih => exact ih
  | cancelled | timeout | refused | failed | unknown | lost | complete => rfl

theorem Generation.requests {changes : Changes} (h : Generation s c message t (.ok changes)) :
    t.filterMap LogEntry.request? = [message] := by
  cases h with
  | cancelled _ poll => exact congrArg (message :: ·) poll.requests
  | @complete uploadId id u changes _ poll =>
      have hu : (u ++ changesShown s.tabId uploadId changes).filterMap LogEntry.request? = [] := by
        rw [List.filterMap_append, poll.requests]
        rfl
      exact congrArg (message :: ·) hu

theorem Draft.requests (h : Draft s c iteration (some m) t s' (.ok outcome)) :
    t.filterMap LogEntry.request? = [some m] := by
  cases h with
  | done _ hm plan =>
      rw [List.filterMap_append, plan.requests, userMessage_eq hm]
      rfl

theorem Round.requests {keep : Changes → Stage}
    (h : Round s c iteration message keep t files s' (.ok outcome)) :
    t.filterMap LogEntry.request? = [message] := by
  cases h with
  | done _ generation => exact generation.requests

theorem Regeneration.requests
    (h : Regeneration s c iteration (some m) t files s' (.ok outcome)) :
    t.filterMap LogEntry.request? = [some m] := by
  cases h with
  | sent hm round => rw [round.requests, userMessage_eq hm]

/-- A state that is there between two moves passes a message on once if it handles it. -/
theorem Interaction.requests (h : Interaction format fs s (some m) t files s' (.ok outcome))
    (hs : s.stage.Resting) (hm : State.wantsMock (some m) = false) :
    t.filterMap LogEntry.request? = [s.stage.passedOn m] := by
  cases h with
  | begun hst upload draft =>
      rw [hst, List.filterMap_append, upload.requests, draft.requests]
      rfl
  | drafted hst draft | revised hst _ draft =>
      rw [hst]
      exact draft.requests
  | diverted _ hm' => cases hm'.symm.trans hm
  | generated hst round =>
      rw [hst]
      exact round.requests
  | reworked hst upload regeneration =>
      rw [hst, List.filterMap_append, upload.requests, regeneration.requests]
      rfl
  | mocked hst | regenerated hst =>
      rw [hst] at hs
      exact hs.elim

theorem Forward.requests {x x' : Session} {content : Option String}
    (h : Forward format fs tokens x (some m) t files x' (.ok content))
    (hs : x.state.stage.Resting) (hm : State.wantsMock (some m) = false) :
    t.filterMap LogEntry.request? = [x.state.stage.passedOn m] := by
  rcases h.outcome with ⟨_, _, _, _, he, _⟩ | ⟨s', outcome, u, _, _, interaction, rfl⟩
  · cases he
  · rw [List.filterMap_cons_none rfl, List.filterMap_append, interaction.requests hs hm]
    rfl

end Transcript

/-- If sending a message succeeds, it has been passed on once, just as it is, and nothing else has
been asked for. If the plan was accepted before, code has been asked for once, without it. -/
theorem send_delivers (env : Environment σ) (settings : Settings) (root : Path) (tabId : String)
    (outside : σ) (files : FileSystem) (moves : List Move) (message : String)
    (hm : State.wantsMock (some message) = false) :
    let r := run env (Session.new settings root tabId outside files) moves
    ∀ content r', exec (send env message) r = (.ok content, r') →
      ∃ t : List LogEntry, r'.world.log = t.reverse ++ r.world.log ∧
        t.filterMap LogEntry.request? = [r.session.state.stage.passedOn message] := by
  intro r content r' h
  have hr := (Sound.new settings root tabId outside files).run env moves
  obtain ⟨t, staged, x', res, w', hrun, forward, f⟩ :=
    forward_spec env (some message) { r.session with lastMessage := some message } r.world
  obtain ⟨rfl, rfl⟩ := Prod.mk.inj (hrun.symm.trans h)
  exact ⟨t, f.log, forward.requests hr.resting hm⟩

theorem send_delivers_planned :
    let env := obliging (.ok "job") ⟨[], []⟩
    let sent := exec (send env "more") (planned env)
    State.wantsMock (some "more") = false ∧ (∃ content, sent.1 = .ok content) ∧
      ∃ t : List LogEntry, sent.2.world.log = t.reverse ++ (planned env).world.log ∧
        t.filterMap LogEntry.request? = [some "more"] := by
  intro env sent
  have hm : State.wantsMock (some "more") = false := by decide +kernel
  have hplan : planned env = _ := planned_obliging
  have hsent : ∃ content, sent.1 = .ok content := by
    simp only [sent, hplan]
    exact ⟨_, rfl⟩
  obtain ⟨content, h⟩ := hsent
  obtain ⟨t, hlog, hrequests⟩ := send_delivers env {} sampleRoot "tab" () sample
    [.preload "task", .send "message"] "more" hm content sent.2 (Prod.ext h rfl)
  have hpassed : (planned env).session.state.stage.passedOn "more" = some "more" := by
    rw [hplan]
    rfl
  exact ⟨hm, ⟨content, h⟩, t, hlog, hrequests.trans (congrArg ([·]) hpassed)⟩

/-- What is said of a plan after it has been accepted is lost. -/
theorem feedback_not_delivered :
    let env := obliging (.ok "job") ⟨[], []⟩
    let r := run env (planned env) [.acceptPlan]
    let sent := exec (send env "feedback") r
    Text.isBlankText "feedback" = false ∧ State.wantsMock (some "feedback") = false ∧
      sent.1 = .ok none ∧
      sent.2.world.log.filterMap LogEntry.request? = [none, some "message"] := by
  intro env r sent
  have hplan : planned env = _ := planned_obliging
  simp only [sent, r, hplan]
  exact ⟨by decide +kernel, by decide +kernel, by rfl, by rfl⟩

end Codewright.Session
