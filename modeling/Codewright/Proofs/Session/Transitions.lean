import Codewright.Proofs.Session.Steps

/-!
# Transitions

What a state leaves behind when it fails, and which stage comes after it when it succeeds.
-/

namespace Codewright.Session

open Staging (StagedFile)
open Transcript
open Workspace (ArchiveFormat FileSystem)

variable {format : ArchiveFormat} {fs : FileSystem} {s s' : State} {message : Option String}
  {t : List LogEntry} {files : List StagedFile}

/-! ## Failure -/

namespace Transcript

theorem Draft.of_error {c : Context} {iteration : UInt32} {e : Error}
    (h : Draft s c iteration message t s' (.error e)) : s' = s := by
  cases h with
  | noMessage | failed => rfl

theorem Round.of_error {c : Context} {iteration : UInt32} {keep : Changes → Stage} {e : Error}
    (h : Round s c iteration message keep t files s' (.error e)) : s' = s ∧ files = [] := by
  cases h with
  | failed => exact ⟨rfl, rfl⟩

theorem Regeneration.of_error {c : Context} {iteration : UInt32} {e : Error}
    (h : Regeneration s c iteration message t files s' (.error e)) : s' = s ∧ files = [] := by
  cases h with
  | noMessage => exact ⟨rfl, rfl⟩
  | sent _ round => exact round.of_error

/-- A state that fails stays as it is, and nothing is staged. -/
theorem Interaction.of_error {e : Error}
    (h : Interaction format fs s message t files s' (.error e)) :
    s' = s ∧ files = [] := by
  cases h with
  | tooEarly | noTask | noUpload | begun | noFeedback | noReupload => exact ⟨rfl, rfl⟩
  | drafted _ draft | revised _ _ draft => exact ⟨draft.of_error, rfl⟩
  | generated _ round => exact round.of_error
  | reworked _ _ regeneration => exact ⟨rfl, regeneration.of_error.2⟩
  | regenerated _ regeneration => exact regeneration.of_error

/-- What forwarding a message leaves: the same state, perhaps with another token and nothing staged,
or the one that takes over. -/
theorem Forward.outcome {tokens : Tokens} {x x' : Session} {res : Except Error (Option String)}
    (h : Forward format fs tokens x message t files x' res) :
    (∃ token e u, x' = { x with state := { x.state with token } } ∧ res = .error e ∧ files = [] ∧
        (token = x.state.token ∨ tokens.isCancelled x.state.token) ∧
        Interaction format fs x.state message u [] x.state (.error e) ∧
        t = .event (.progress x.tabId true none) ::
          (u ++ [.event (.progress x.tabId false none)])) ∨
      (∃ s' outcome u, x' = { x with state := outcome.next } ∧ res = .ok outcome.content ∧
        Interaction format fs x.state message u files s' (.ok outcome) ∧
        t = .event (.progress x.tabId true none) ::
          (u ++ [.event (.progress x.tabId false none)])) := by
  cases h with
  | failed interaction ht =>
      obtain ⟨rfl, rfl⟩ := interaction.of_error
      exact .inl ⟨_, _, _, rfl, rfl, rfl, ht, interaction, rfl⟩
  | done interaction => exact .inr ⟨_, _, _, rfl, rfl, interaction, rfl⟩

/-- Accepting the plan does not change it. -/
theorem Acceptance.approach_eq {x x' : Session} {res : Except Error Unit}
    (h : Acceptance x x' res) : x'.state.approach = x.state.approach := by
  cases h with
  | before | now | noUpload | tooEarly | noPlan => rfl

end Transcript

/-! ## Success -/

/-- Handling a message can lead from one stage to another. -/
inductive Stage.Leads : Stage → Stage → Prop where
  | begun {c : Context} {id : String} :
      Leads (.awaitingTask c) (.revising (c.withUploadId id) 1)
  | drafted {c : Context} {n : UInt32} : Leads (.drafting c n) (.revising c (n + 1))
  | revised {c : Context} {n : UInt32} : Leads (.revising c n) (.revising c (n + 1))
  | diverted {c : Context} {n : UInt32} : Leads (.revising c n) (.drafting c 0)
  | mocked {c : Context} {id : String} {files : List StagedFile} :
      Leads (.mocking c id files) (.drafting c 0)
  | generated {c : Context} {n : UInt32} {old changes : Changes} :
      Leads (.generating c n old) (.reviewing c (n + 1) changes)
  | reworked {c : Context} {id : String} {n : UInt32} {old changes : Changes} :
      Leads (.reviewing c n old) (.reviewing (c.withUploadId id) (n + 1) changes)
  | regenerated {c : Context} {n : UInt32} {old changes : Changes} :
      Leads (.regenerating c n old) (.reviewing c (n + 1) changes)

/-- Nothing leads back to where there is no conversation. -/
theorem Stage.Leads.ne_notStarted {a b : Stage} (h : a.Leads b) : b ≠ .notStarted := by
  cases h with
  | begun | drafted | revised | diverted | mocked | generated | reworked | regenerated => nofun

namespace Transcript

theorem Draft.next {c : Context} {iteration : UInt32} {outcome : Outcome}
    (h : Draft s c iteration message t s' (.ok outcome)) :
    outcome.next.stage = .revising c (iteration + 1) ∧ outcome.next.tabId = s.tabId := by
  cases h with
  | done => exact ⟨rfl, rfl⟩

theorem Round.next {c : Context} {iteration : UInt32} {keep : Changes → Stage} {outcome : Outcome}
    (h : Round s c iteration message keep t files s' (.ok outcome)) :
    ∃ changes, outcome.next.stage = .reviewing c (iteration + 1) changes ∧
      outcome.next.tabId = s.tabId ∧ files = changes.files := by
  cases h with
  | done => exact ⟨_, rfl, rfl, rfl⟩

theorem Regeneration.next {c : Context} {iteration : UInt32} {outcome : Outcome}
    (h : Regeneration s c iteration message t files s' (.ok outcome)) :
    ∃ changes, outcome.next.stage = .reviewing c (iteration + 1) changes ∧
      outcome.next.tabId = s.tabId ∧ files = changes.files := by
  cases h with
  | sent _ round => exact round.next

theorem Mock.next {c : Context} {uploadId : String} {outcome : Outcome}
    (h : Mock fs s c uploadId t files s' outcome) :
    outcome.next.stage = .drafting c 0 ∧ outcome.next.tabId = s.tabId := by
  cases h with
  | unreadable | shown => exact ⟨rfl, rfl⟩

/-- With the sentinel in its message, a state with a plan hands over to one that looks for files. -/
theorem Interaction.mock {c : Context} {iteration : UInt32} {res : Except Error Outcome}
    (h : Interaction format fs s message t files s' res) (hs : s.stage = .revising c iteration)
    (hm : State.wantsMock message = true) :
    ∃ uploadId token s₁ outcome, res = .ok outcome ∧
      Mock fs { s with stage := .mocking c uploadId [], token } c uploadId t files s₁ outcome := by
  cases h with
  | diverted hs' _ mock =>
      obtain ⟨rfl, -⟩ := Stage.revising.inj (hs.symm.trans hs')
      exact ⟨_, _, _, _, rfl, mock⟩
  | revised _ hm' _ => cases hm'.symm.trans hm
  | tooEarly hs' | noTask hs' | noUpload hs' | begun hs' | drafted hs' | generated hs' | mocked hs'
  | noFeedback hs' | noReupload hs' | reworked hs' | regenerated hs' => cases hs.symm.trans hs'

theorem Interaction.leads {outcome : Outcome}
    (h : Interaction format fs s message t files s' (.ok outcome)) :
    s.stage.Leads outcome.next.stage ∧ outcome.next.tabId = s.tabId := by
  cases h with
  | begun hs _ draft =>
      obtain ⟨hn, ht⟩ := draft.next
      rw [hs, hn]
      exact ⟨.begun, ht⟩
  | drafted hs draft =>
      obtain ⟨hn, ht⟩ := draft.next
      rw [hs, hn]
      exact ⟨.drafted, ht⟩
  | revised hs _ draft =>
      obtain ⟨hn, ht⟩ := draft.next
      rw [hs, hn]
      exact ⟨.revised, ht⟩
  | diverted hs _ mock =>
      obtain ⟨hn, ht⟩ := mock.next
      rw [hs, hn]
      exact ⟨.diverted, ht⟩
  | mocked hs mock =>
      obtain ⟨hn, ht⟩ := mock.next
      rw [hs, hn]
      exact ⟨.mocked, ht⟩
  | generated hs round =>
      obtain ⟨changes, hn, ht, _⟩ := round.next
      rw [hs, hn]
      exact ⟨.generated, ht⟩
  | reworked hs _ regeneration =>
      obtain ⟨changes, hn, ht, _⟩ := regeneration.next
      rw [hs, hn]
      exact ⟨.reworked, ht⟩
  | regenerated hs regeneration =>
      obtain ⟨changes, hn, ht, _⟩ := regeneration.next
      rw [hs, hn]
      exact ⟨.regenerated, ht⟩

end Transcript

end Codewright.Session
