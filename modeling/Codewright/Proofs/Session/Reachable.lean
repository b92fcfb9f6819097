import Codewright.Proofs.Session.Transitions

/-!
# Reachable sessions

What holds of a session between any two moves, and which errors can therefore not happen.
-/

namespace Codewright.Session

open Staging (StagedFile)
open Transcript
open Workspace (ArchiveFormat FileSystem Path Snapshot)

variable {σ : Type}

namespace Stage

/-- Whether a stage only exists while a message is handled. -/
def isPassing : Stage → Bool
  | mocking _ _ _ | regenerating _ _ _ => true
  | _ => false

/-- Whether a stage comes after an upload of the workspace. -/
def isUploaded : Stage → Bool
  | drafting _ _ | revising _ _ | generating _ _ _ | reviewing _ _ _ => true
  | notStarted | awaitingTask _ | mocking _ _ _ | regenerating _ _ _ => false

/-- What holds of the stage of a session between two moves. -/
def Resting : Stage → Prop
  | notStarted => True
  | awaitingTask c => c.uploadId = none
  | drafting c _ | revising c _ | reviewing c _ _ => c.uploadId.isSome
  | generating c n changes => c.uploadId.isSome ∧ n = 0 ∧ changes = {}
  | mocking _ _ _ | regenerating _ _ _ => False

variable {s s' : Stage}

theorem Resting.isPassing (h : s.Resting) : s.isPassing = false := by
  cases s with
  | mocking | regenerating => exact h.elim
  | _ => rfl

theorem Resting.isSome_uploadId (h : s.Resting) :
    (s.context?.bind Context.uploadId).isSome = s.isUploaded := by
  cases s with
  | notStarted => rfl
  | awaitingTask c => exact congrArg Option.isSome h
  | drafting | revising | reviewing => exact h
  | generating => exact h.1
  | mocking | regenerating => exact h.elim

theorem Resting.leads (h : s.Resting) (hl : s.Leads s') : s'.Resting := by
  cases hl with
  | begun | reworked => rfl
  | drafted | revised | diverted => exact h
  | generated => exact h.1
  | mocked | regenerated => exact h.elim

/-- The limits of a context do not change. -/
theorem Leads.limits {c' : Context} (hl : s.Leads s') (hc : s'.context? = some c') :
    ∃ c, s.context? = some c ∧ c'.root = c.root ∧ c'.polling = c.polling ∧
      c'.maxRepoSizeBytes = c.maxRepoSizeBytes := by
  cases hl with
  | begun | drafted | revised | diverted | mocked | generated | reworked | regenerated =>
      cases hc
      exact ⟨_, rfl, rfl, rfl, rfl⟩

end Stage

/-- What holds of a session that has come about from `x₀`, where nothing had been said yet. -/
structure Sound (x₀ x : Session) : Prop where
  resting : x.state.stage.Resting
  stateTabId : x.state.tabId = x₀.tabId
  tabId : x.tabId = x₀.tabId
  root : x.root = x₀.root
  polling : x.polling = x₀.polling
  maxRepoSizeBytes : x.maxRepoSizeBytes = x₀.maxRepoSizeBytes
  limits : ∀ c, x.state.stage.context? = some c → c.root = x₀.root ∧ c.polling = x₀.polling ∧
    c.maxRepoSizeBytes = x₀.maxRepoSizeBytes

namespace Transcript

variable {format : ArchiveFormat} {fs : FileSystem} {tokens : Tokens} {x₀ x x' : Session}
  {message : Option String}
  {t : List LogEntry} {files : List StagedFile}

theorem Forward.sound {res : Except Error (Option String)}
    (h : Forward format fs tokens x message t files x' res) (hx : Sound x₀ x) : Sound x₀ x' := by
  rcases h.outcome with ⟨token, e, u, rfl, -⟩ | ⟨s', outcome, u, rfl, -, interaction, -⟩
  · exact { hx with }
  · obtain ⟨hl, ht⟩ := interaction.leads
    refine { hx with
      resting := hx.resting.leads hl
      stateTabId := ht.trans hx.stateTabId
      limits := fun c' hc' => ?_ }
    obtain ⟨c, hc, hroot, hpolling, hmax⟩ := hl.limits hc'
    rw [hroot, hpolling, hmax]
    exact hx.limits c hc

theorem Acceptance.sound {res : Except Error Unit} (h : Acceptance x x' res) (hx : Sound x₀ x) :
    Sound x₀ x' := by
  cases h with
  | before | noUpload | tooEarly | noPlan => exact hx
  | now _ hs hc =>
      have hr := hx.resting
      have hl := hx.limits
      rw [hs] at hr hl
      exact { hx with
        resting := ⟨hr, rfl, rfl⟩
        stateTabId := hx.tabId
        limits := hl }

theorem Step.sound {m : Move} {res : Except Error Reply}
    (h : Step format fs tokens x m t files x' res)
    (hx : Sound x₀ x) : Sound x₀ x' := by
  cases h with
  | startedBefore | notStarted | notWritten | written | cancelled | edited => exact hx
  | started =>
      refine { hx with resting := rfl, stateTabId := hx.tabId, limits := ?_ }
      rintro _ ⟨⟩
      exact ⟨hx.root, hx.polling, hx.maxRepoSizeBytes⟩
  | sent forward => exact forward.sound { hx with }
  | retried forward => exact forward.sound hx
  | accepted acceptance | notAccepted acceptance => exact acceptance.sound hx
  | generated acceptance forward => exact forward.sound (acceptance.sound hx)
  | handled => exact { hx with }

end Transcript

theorem Sound.new (settings : Settings) (root : Path) (tabId : String) (outside : σ)
    (files : FileSystem) :
    Sound (Session.new settings root tabId outside files).session
      (Session.new settings root tabId outside files).session :=
  ⟨trivial, rfl, rfl, rfl, rfl, rfl, nofun⟩

theorem Sound.run {x₀ : Session} {r : Running σ} (env : Environment σ) (hr : Sound x₀ r.session)
    (moves : List Move) : Sound x₀ (run env r moves).session := by
  refine run_induction (P := fun r => Sound x₀ r.session) env hr ?_ moves
  rintro ⟨x, w⟩ m hx
  obtain ⟨t, staged, x', res, w', hrun, step, -⟩ := perform_spec env m x w
  rw [hrun]
  exact step.sound hx

/-! ## Missing ids -/

/-- Whether an error says that an id of the service is missing. -/
def Error.missesId : Error → Bool
  | conversationIdNotFound | uploadIdNotFound => true
  | _ => false

theorem isUserFacing_userMessage {message : Option String} {e : Error}
    (h : userMessage message = .error e) : e.isUserFacing = true := by
  unfold userMessage at h
  split at h
  · cases h
    rfl
  · split at h
    · cases h
      rfl
    · cases h

theorem isUserFacing_take {format : ArchiveFormat} {fs : FileSystem} {root : Path} {limit : Nat}
    {e : Error}
    (h : Snapshot.take format fs root limit = .error e) : e.isUserFacing = true := by
  simp only [Snapshot.take] at h
  split at h
  · cases h
    rfl
  · split at h
    · cases h
      rfl
    · split at h
      · cases h
        rfl
      · cases h

/-- The user can do nothing about an id that is missing. -/
theorem Error.missesId_of_isUserFacing {e : Error} (h : e.isUserFacing = true) :
    e.missesId = false := by
  cases e <;> first | rfl | cases h

namespace Transcript

variable {format : ArchiveFormat} {fs : FileSystem} {tokens : Tokens} {s s' : State} {c : Context}
  {iteration : UInt32}
  {message : Option String} {t : List LogEntry} {files : List StagedFile} {e : Error}

theorem Upload.missesId (h : Upload format c fs t (.error e)) : e.missesId = false := by
  cases h with
  | unreadable h => exact Error.missesId_of_isUserFacing (isUserFacing_take h)
  | refused | broken => rfl

theorem Plan.missesId {text : String} (h : Plan c text t (.error e)) (hc : c.uploadId.isSome) :
    e.missesId = false := by
  cases h with
  | noUpload h =>
      rw [h] at hc
      cases hc
  | refused => rfl

theorem Poll.missesId {pauseMs n : Nat} {job : Job} {res : Except Error JobResult}
    (h : Poll pauseMs job n t res) (hres : res = .error e) : e.missesId = false := by
  induction h with
  | pending _ _ ih => exact ih hres
  | _ =>
      cases hres
      try rfl

theorem Generation.missesId (h : Generation s c message t (.error e)) (hc : c.uploadId.isSome) :
    e.missesId = false := by
  cases h with
  | noUpload h =>
      rw [h] at hc
      cases hc
  | refused => rfl
  | failed _ poll => exact poll.missesId rfl

theorem Draft.missesId (h : Draft s c iteration message t s' (.error e))
    (hc : c.uploadId.isSome) : e.missesId = false := by
  cases h with
  | noMessage h => exact Error.missesId_of_isUserFacing (isUserFacing_userMessage h)
  | failed _ plan => exact plan.missesId hc

theorem Round.missesId {keep : Changes → Stage}
    (h : Round s c iteration message keep t files s' (.error e)) (hc : c.uploadId.isSome) :
    e.missesId = false := by
  cases h with
  | failed generation => exact generation.missesId hc

theorem Regeneration.missesId (h : Regeneration s c iteration message t files s' (.error e))
    (hc : c.uploadId.isSome) : e.missesId = false := by
  cases h with
  | noMessage h => exact Error.missesId_of_isUserFacing (isUserFacing_userMessage h)
  | sent _ round => exact round.missesId hc

theorem Interaction.missesId (h : Interaction format fs s message t files s' (.error e))
    (hs : s.stage.Resting) : e.missesId = false := by
  match h with
  | .tooEarly _ => rfl
  | .noTask _ h | .noFeedback _ h =>
      exact Error.missesId_of_isUserFacing (isUserFacing_userMessage h)
  | .noUpload _ _ upload | .noReupload _ _ upload => exact upload.missesId
  | .begun _ _ draft => exact draft.missesId rfl
  | .reworked _ _ regeneration => exact regeneration.missesId rfl
  | .drafted hst draft =>
      rw [hst] at hs
      exact draft.missesId hs
  | .revised hst _ draft =>
      rw [hst] at hs
      exact draft.missesId hs
  | .generated hst round =>
      rw [hst] at hs
      exact round.missesId hs.1
  | .regenerated hst _ =>
      rw [hst] at hs
      exact hs.elim

theorem Forward.missesId {x x' : Session} {res : Except Error (Option String)}
    (h : Forward format fs tokens x message t files x' res) (hs : x.state.stage.Resting)
    (hres : res = .error e) : e.missesId = false := by
  subst hres
  rcases h.outcome with ⟨token, e', u, -, he, -, -, interaction, -⟩ | ⟨s', outcome, u, -, he, -⟩
  · cases he
    exact interaction.missesId hs
  · cases he

theorem Acceptance.missesId {x x' : Session} {res : Except Error Unit} (h : Acceptance x x' res)
    (hs : x.state.stage.Resting) (hres : res = .error e) :
    e = .conversationIdNotFound ∧ x.state.stage = .notStarted ∨ e.missesId = false := by
  cases h with
  | before | now => cases hres
  | noUpload hst hc =>
      rw [hst, Stage.Resting, hc] at hs
      cases hs
  | tooEarly hst =>
      cases hres
      exact .inl ⟨rfl, hst⟩
  | noPlan =>
      cases hres
      exact .inr rfl

/-- The only id that can be missing is that of the conversation, when a plan is to be accepted
before there is one. -/
theorem Step.missesId {x x' x₀ : Session} {m : Move} {res : Except Error Reply}
    (h : Step format fs tokens x m t files x' res) (hx : Sound x₀ x) (hres : res = .error e) :
    e = .conversationIdNotFound ∧ (m = .acceptPlan ∨ m = .generateCode) ∧
        x.state.stage = .notStarted ∨ e.missesId = false := by
  cases h with
  | startedBefore | started | written | handled | cancelled | edited => cases hres
  | notStarted | notWritten =>
      cases hres
      exact .inr rfl
  | @sent _ _ _ _ res forward | @retried _ _ _ res forward =>
      cases res with
      | ok => cases hres
      | error e' =>
          cases hres
          exact .inr (forward.missesId hx.resting rfl)
  | @accepted _ res acceptance =>
      cases res with
      | ok => cases hres
      | error e' =>
          cases hres
          rcases acceptance.missesId hx.resting rfl with ⟨he, hst⟩ | he
          · exact .inl ⟨he, .inl rfl, hst⟩
          · exact .inr he
  | notAccepted acceptance =>
      cases hres
      rcases acceptance.missesId hx.resting rfl with ⟨he, hst⟩ | he
      · exact .inl ⟨he, .inr rfl, hst⟩
      · exact .inr he
  | @generated _ _ _ _ res acceptance forward =>
      cases res with
      | ok => cases hres
      | error e' =>
          cases hres
          exact .inr (forward.missesId (acceptance.sound hx).resting rfl)

end Transcript

end Codewright.Session
