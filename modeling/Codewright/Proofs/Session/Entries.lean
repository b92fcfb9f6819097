import Codewright.Proofs.Session.Transitions

/-!
# What a state can write

The entries that a state writes while it handles a message are calls about the conversation, pauses,
and what the user is told about plans and code. Everything else is written around that.
-/

namespace Codewright.Session

open Staging (StagedFile)
open Transcript
open Workspace (ArchiveFormat FileSystem)

variable {α : Type}

/-- What the user is told, if that is what an entry is about. -/
def LogEntry.event? : LogEntry → Option Chat.Event
  | .event e => some e
  | .call _ _ | .waited _ => none

/-- What the service is asked, if that is what an entry is about. -/
def LogEntry.call? : LogEntry → Option Service.Call
  | .call c _ => some c
  | .event _ | .waited _ => none

/-- Whether an entry is of a kind that a state at this tab writes. -/
def LogEntry.isInner (tabId : String) : LogEntry → Bool
  | .call .createConversation _ => false
  | .call _ _ | .waited _ => true
  | .event (.answer a) => a.tabId = tabId
  | .event (.codeResult _ _ id _) => id = tabId
  | .event _ => false

/-- What is not to be found in any entry of a state is not to be found in all of them. -/
theorem filterMap_eq_nil_of_inner {tabId : String} {f : LogEntry → Option α} {t : List LogEntry}
    (h : t.all (LogEntry.isInner tabId) = true)
    (hf : ∀ e : LogEntry, e.isInner tabId = true → f e = none) : t.filterMap f = [] := by
  rw [List.all_eq_true] at h
  exact List.filterMap_eq_nil_iff.mpr fun e he => hf e (h e he)

namespace Transcript

variable {c : Context} {format : ArchiveFormat} {fs : FileSystem} {s s' : State}
  {iteration : UInt32}
  {message : Option String} {t : List LogEntry} {files : List StagedFile} {tabId : String}

theorem Upload.inner {res : Except Error String} (h : Upload format c fs t res) :
    t.all (LogEntry.isInner tabId) = true := by
  cases h with
  | unreadable | refused | broken | done => rfl

theorem Plan.inner {text : String} {res : Except Error String} (h : Plan c text t res) :
    t.all (LogEntry.isInner tabId) = true := by
  cases h with
  | noUpload | refused | done => rfl

theorem Poll.inner {pauseMs n : Nat} {job : Job} {res : Except Error JobResult}
    (h : Poll pauseMs job n t res) : t.all (LogEntry.isInner tabId) = true := by
  induction h with
  | pending _ _ ih => exact ih
  | cancelled | timeout | refused | failed | unknown | lost | complete => rfl

theorem inner_changesShown (tabId uploadId : String) (changes : Changes) :
    (changesShown tabId uploadId changes).all (LogEntry.isInner tabId) = true := by
  simp [changesShown, LogEntry.isInner, Chat.Event.ofStaged]

theorem Generation.inner {res : Except Error Changes} (h : Generation s c message t res) :
    t.all (LogEntry.isInner s.tabId) = true := by
  have started : ∀ {uploadId id : String} {u : List LogEntry},
      u.all (LogEntry.isInner s.tabId) = true →
      (.call (.startCodeGeneration c.conversationId uploadId message) (.ok id) ::
        jobShown s.tabId :: u).all (LogEntry.isInner s.tabId) = true := by
    intro uploadId id u hu
    rw [List.all_cons, List.all_cons, hu]
    simp [LogEntry.isInner, jobShown]
  cases h with
  | noUpload | refused => rfl
  | failed _ poll | cancelled _ poll => exact started poll.inner
  | @complete uploadId _ _ changes _ poll =>
      refine started ?_
      rw [List.all_append, poll.inner, inner_changesShown]
      rfl

theorem Draft.inner {res : Except Error Outcome} (h : Draft s c iteration message t s' res) :
    t.all (LogEntry.isInner s.tabId) = true := by
  match h with
  | .noMessage _ => rfl
  | .failed _ plan => exact plan.inner
  | .done _ _ plan =>
      rw [List.all_append, plan.inner]
      simp [planShown, LogEntry.isInner]

theorem Round.inner {keep : Changes → Stage} {res : Except Error Outcome}
    (h : Round s c iteration message keep t files s' res) :
    t.all (LogEntry.isInner s.tabId) = true := by
  match h with
  | .failed generation | .done _ generation => exact generation.inner

theorem Regeneration.inner {res : Except Error Outcome}
    (h : Regeneration s c iteration message t files s' res) :
    t.all (LogEntry.isInner s.tabId) = true := by
  match h with
  | .noMessage _ => rfl
  | .sent _ round => exact round.inner

theorem Mock.inner {uploadId : String} {outcome : Outcome}
    (h : Mock fs s c uploadId t files s' outcome) : t.all (LogEntry.isInner s.tabId) = true := by
  match h with
  | .unreadable _ _ => rfl
  | .shown _ _ _ => exact inner_changesShown ..

theorem Interaction.inner {res : Except Error Outcome}
    (h : Interaction format fs s message t files s' res) :
    t.all (LogEntry.isInner s.tabId) = true := by
  match h with
  | .tooEarly _ | .noTask _ _ | .noFeedback _ _ => rfl
  | .noUpload _ _ upload | .noReupload _ _ upload => exact upload.inner
  | .begun _ upload draft =>
      rw [List.all_append, upload.inner]
      exact draft.inner
  | .drafted _ draft | .revised _ _ draft => exact draft.inner
  | .diverted _ _ mock | .mocked _ mock => exact mock.inner
  | .generated _ round => exact round.inner
  | .reworked _ upload regeneration =>
      rw [List.all_append, upload.inner]
      exact regeneration.inner
  | .regenerated _ regeneration => exact regeneration.inner

/-- What is neither written by states nor when they begin and end is not written by forwarding. -/
theorem Forward.filterMap_eq_nil {tokens : Tokens} {x x' : Session}
    {res : Except Error (Option String)} {f : LogEntry → Option α}
    (h : Forward format fs tokens x message t files x' res)
    (hf : ∀ e : LogEntry, e.isInner x.state.tabId = true → f e = none)
    (hp : ∀ tabId inProgress text, f (.event (.progress tabId inProgress text)) = none) :
    t.filterMap f = [] := by
  have outer : ∀ u : List LogEntry, u.all (LogEntry.isInner x.state.tabId) = true →
      (.event (.progress x.tabId true none) ::
        (u ++ [.event (.progress x.tabId false none)])).filterMap f = [] := by
    intro u hu
    rw [List.filterMap_cons_none (hp ..), List.filterMap_append, filterMap_eq_nil_of_inner hu hf,
      List.nil_append, List.filterMap_cons_none (hp ..), List.filterMap_nil]
  cases h with
  | failed interaction _ => exact outer _ interaction.inner
  | done interaction => exact outer _ interaction.inner

end Transcript

end Codewright.Session
