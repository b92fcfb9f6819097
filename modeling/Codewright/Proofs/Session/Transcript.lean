import Codewright.Proofs.Session.Execution

/-!
# Every action has a transcript

Whatever the environment does, an action writes the entries of a transcript to the log, stages the
files that go with it and leaves the workspace alone. All that is known of the calls of a session is
derived from this.
-/

namespace Codewright.Session

open Service (Call JobStatus)
open Staging (StagedFile Store)
open Transcript

variable {σ : Type}

theorem registerAll_append (s : Store) (a b : List StagedFile) :
    s.registerAll (a ++ b) = (s.registerAll a).registerAll b :=
  List.foldl_append

/-- `w'` comes from `w` when these entries are written and these files are staged. -/
structure World.Follows (w : World σ) (t : List LogEntry) (files : List StagedFile)
    (w' : World σ) : Prop where
  log : w'.log = t.reverse ++ w.log
  staged : w'.staged = w.staged.registerAll files
  files : w'.files = w.files

namespace World.Follows

variable {w w₁ w₂ : World σ} {t u : List LogEntry} {files more : List StagedFile}

theorem refl (w : World σ) : w.Follows [] [] w := ⟨rfl, rfl, rfl⟩

theorem trans (h : w.Follows t files w₁) (h₁ : w₁.Follows u more w₂) :
    w.Follows (t ++ u) (files ++ more) w₂ where
  log := by rw [h₁.log, h.log, List.reverse_append, List.append_assoc]
  staged := by rw [h₁.staged, h.staged, registerAll_append]
  files := h₁.files.trans h.files

end World.Follows

/-! ## Actions -/

/-- A call is logged with its result, which decides how the action goes on. -/
theorem call_spec (env : Environment σ) (c : Call) (wrap : Service.Error → Error) (w : World σ) :
    ∃ w₁,
      (∃ answer, exec (Action.call env c wrap) w = (.ok answer, w₁) ∧
        w.Follows [.call c (.ok answer)] [] w₁) ∨
      ∃ e, exec (Action.call env c wrap) w = (.error (wrap e), w₁) ∧
        w.Follows [.call c (.error e)] [] w₁ := by
  rw [exec_call]
  cases (env.serve w.outside c).result with
  | ok answer => exact ⟨_, .inl ⟨answer, rfl, rfl, rfl, rfl⟩⟩
  | error e => exact ⟨_, .inr ⟨e, rfl, rfl, rfl, rfl⟩⟩

theorem emit_spec (e : Chat.Event) (w : World σ) :
    ∃ w₁, exec (Action.emit e) w = (.ok ⟨⟩, w₁) ∧ w.Follows [.event e] [] w₁ :=
  ⟨_, rfl, rfl, rfl, rfl⟩

theorem wait_spec (env : Environment σ) (ms : Nat) (w : World σ) :
    ∃ w₁, exec (Action.wait env ms) w = (.ok ⟨⟩, w₁) ∧ w.Follows [.waited ms] [] w₁ :=
  ⟨_, rfl, rfl, rfl, rfl⟩

theorem freshId_spec (env : Environment σ) (w : World σ) :
    ∃ id w₁, exec (Action.freshId env) w = (.ok id, w₁) ∧ w.Follows [] [] w₁ :=
  ⟨_, _, rfl, rfl, rfl, rfl⟩

theorem newToken_spec (w : World σ) :
    ∃ token w₁, exec Action.newToken w = (.ok token, w₁) ∧ w.Follows [] [] w₁ :=
  ⟨_, _, rfl, rfl, rfl, rfl⟩

theorem childToken_spec (t : Token) (w : World σ) :
    ∃ token w₁, exec (Action.childToken t) w = (.ok token, w₁) ∧ w.Follows [] [] w₁ :=
  ⟨_, _, rfl, rfl, rfl, rfl⟩

theorem stage_spec (files : List StagedFile) (w : World σ) :
    ∃ w₁, exec (Action.stage files) w = (.ok ⟨⟩, w₁) ∧ w.Follows [] files w₁ :=
  ⟨_, rfl, rfl, rfl, rfl⟩

theorem uploadWorkspace_spec (env : Environment σ) (c : Context) (w : World σ) :
    ∃ t, Upload env.format c w.files t (exec (uploadWorkspace env c) w).1 ∧
      w.Follows t [] (exec (uploadWorkspace env c) w).2 := by
  simp only [uploadWorkspace, exec_bind, exec_get, exec_ofExcept]
  cases hs : Workspace.Snapshot.take env.format w.files c.root c.maxRepoSizeBytes with
  | error e => exact ⟨[], .unreadable hs, .refl w⟩
  | ok s =>
      obtain ⟨w₁, ⟨slot, h₁, f₁⟩ | ⟨e, h₁, f₁⟩⟩ :=
        call_spec env (slotRequest c s) (.serverSide .upload) w
      · obtain ⟨w₂, ⟨_, h₂, f₂⟩ | ⟨e, h₂, f₂⟩⟩ := call_spec env (transfer slot s) .uploadCode w₁
        · simp only [h₁, h₂, exec_pure]
          exact ⟨_, .done hs, f₁.trans f₂⟩
        · simp only [h₁, h₂]
          exact ⟨_, .broken hs, f₁.trans f₂⟩
      · simp only [h₁]
        exact ⟨_, .refused hs, f₁⟩

/-- The files that have been staged when changes came out. -/
def filesOf : Except Error Changes → List StagedFile
  | .ok changes => changes.files
  | .error _ => []

theorem collect_spec (env : Environment σ) (job : Job) (w : World σ) :
    ∃ w₁,
      (∃ result, exec (Job.collect env job) w =
          (.ok ⟨result.files.map (StagedFile.ofGenerated job.uploadId), result.deleted⟩, w₁) ∧
        w.Follows [.call (.exportResult job.conversationId) (.ok result)]
          (result.files.map (StagedFile.ofGenerated job.uploadId)) w₁) ∨
      ∃ e, exec (Job.collect env job) w = (.error (.serverSide .codeGen e), w₁) ∧
        w.Follows [.call (.exportResult job.conversationId) (.error e)] [] w₁ := by
  simp only [Job.collect, exec_bind]
  obtain ⟨w₁, ⟨result, h₁, f₁⟩ | ⟨e, h₁, f₁⟩⟩ :=
    call_spec env (.exportResult job.conversationId) (.serverSide .codeGen) w
  · obtain ⟨w₂, h₂, f₂⟩ :=
      stage_spec (result.files.map (StagedFile.ofGenerated job.uploadId)) w₁
    simp only [h₁, h₂, exec_pure]
    exact ⟨w₂, .inl ⟨result, rfl, f₁.trans f₂⟩⟩
  · simp only [h₁]
    exact ⟨w₁, .inr ⟨e, rfl, f₁⟩⟩

theorem poll_spec (env : Environment σ) (pauseMs : Nat) (job : Job) (n : Nat) (w : World σ) :
    ∃ t, Poll pauseMs job n t (exec (Job.poll env pauseMs job n) w).1 ∧
      w.Follows t (filesOf ((exec (Job.poll env pauseMs job n) w).1.map (·.changes)))
        (exec (Job.poll env pauseMs job n) w).2 := by
  induction n generalizing w with
  | zero =>
      simp only [Job.poll, exec_bind, exec_isCancelled]
      cases w.tokens.isCancelled job.token with
      | true => exact ⟨[], .cancelled, .refl w⟩
      | false => exact ⟨[], .timeout, .refl w⟩
  | succ n ih =>
      simp only [Job.poll, exec_bind, exec_isCancelled]
      cases w.tokens.isCancelled job.token with
      | true => exact ⟨[], .cancelled, .refl w⟩
      | false =>
          obtain ⟨w₁, ⟨text, h₁, f₁⟩ | ⟨e, h₁, f₁⟩⟩ :=
            call_spec env (.getCodeGeneration job.conversationId job.id) (.serverSide .codeGen) w
          · simp only [Bool.false_eq_true, ↓reduceIte, exec_bind, h₁]
            cases hs : JobStatus.ofText text with
            | complete =>
                obtain ⟨w₂, ⟨result, h₂, f₂⟩ | ⟨e, h₂, f₂⟩⟩ := collect_spec env job w₁
                · simp only [exec_bind, h₂, exec_pure]
                  exact ⟨_, .complete hs, f₁.trans f₂⟩
                · simp only [exec_bind, h₂]
                  exact ⟨_, .lost hs, f₁.trans f₂⟩
            | inProgress | predictReady =>
                obtain ⟨w₂, h₂, f₂⟩ := wait_spec env pauseMs w₁
                obtain ⟨t, poll, f₃⟩ := ih w₂
                simp only [exec_bind, h₂]
                exact ⟨_, .pending (by rw [hs]; rfl) poll, (f₁.trans f₂).trans f₃⟩
            | predictFailed | debateFailed | failed => exact ⟨_, .failed (by rw [hs]; rfl), f₁⟩
            | unknown raw => exact ⟨_, .unknown hs, f₁⟩
          · simp only [Bool.false_eq_true, ↓reduceIte, exec_bind, h₁]
            exact ⟨_, .refused, f₁⟩

theorem requestApproach_spec (env : Environment σ) (c : Context) (message : String)
    (w : World σ) :
    ∃ t, Plan c message t (exec (State.requestApproach env c message) w).1 ∧
      w.Follows t [] (exec (State.requestApproach env c message) w).2 := by
  simp only [State.requestApproach, exec_bind, exec_ofExcept]
  cases hc : c.uploadId with
  | none =>
      simp only [Context.requireUploadId, hc]
      exact ⟨[], .noUpload hc, .refl w⟩
  | some uploadId =>
      simp only [Context.requireUploadId, hc]
      obtain ⟨w₁, ⟨plan, h₁, f₁⟩ | ⟨e, h₁, f₁⟩⟩ :=
        call_spec env (.generatePlan c.conversationId uploadId message) (.serverSide .approach) w
      · simp only [h₁, exec_pure]
        exact ⟨_, .done hc, f₁⟩
      · simp only [h₁]
        exact ⟨_, .refused hc, f₁⟩

theorem announceChanges_spec (tabId uploadId : String) (changes : Changes) (w : World σ) :
    ∃ w₁, exec (State.announceChanges tabId uploadId changes) w = (.ok ⟨⟩, w₁) ∧
      w.Follows (changesShown tabId uploadId changes) [] w₁ :=
  ⟨_, rfl, rfl, rfl, rfl⟩

theorem runGeneration_spec (env : Environment σ) (s : State) (c : Context)
    (message : Option String) (w : World σ) :
    ∃ t, Generation s c message t (exec (State.runGeneration env s c message) w).1 ∧
      w.Follows t (filesOf (exec (State.runGeneration env s c message) w).1)
        (exec (State.runGeneration env s c message) w).2 := by
  simp only [State.runGeneration, exec_bind, exec_ofExcept]
  cases hc : c.uploadId with
  | none =>
      simp only [Context.requireUploadId, hc]
      exact ⟨[], .noUpload hc, .refl w⟩
  | some uploadId =>
      simp only [Context.requireUploadId, hc]
      obtain ⟨w₁, ⟨id, h₁, f₁⟩ | ⟨e, h₁, f₁⟩⟩ :=
        call_spec env (.startCodeGeneration c.conversationId uploadId message)
          (.serverSide .codeGen) w
      · obtain ⟨w₂, h₂, f₂⟩ := emit_spec (.answer
          { kind := .answerPart, tabId := s.tabId, message := some generatingNotice }) w₁
        obtain ⟨t, poll, f₃⟩ := poll_spec env c.polling.pauseMs
          ⟨id, c.conversationId, uploadId, s.token⟩ c.polling.maxIterations w₂
        have f := (f₁.trans f₂).trans f₃
        simp only [h₁, h₂, Job.await]
        rcases hp : exec (Job.poll env c.polling.pauseMs ⟨id, c.conversationId, uploadId, s.token⟩
          c.polling.maxIterations) w₂ with ⟨e | ⟨changes⟩ | _, w₃⟩
        · rw [hp] at poll f
          exact ⟨_, .failed hc poll, f⟩
        · rw [hp] at poll f
          obtain ⟨w₄, h₄, f₄⟩ := announceChanges_spec s.tabId uploadId changes w₃
          simp only [h₄, exec_bind, exec_pure]
          refine ⟨_, .complete hc poll, ?_⟩
          simpa [jobShown, Except.map, JobResult.changes] using f.trans f₄
        · rw [hp] at poll f
          exact ⟨_, .cancelled hc poll, f⟩
      · simp only [h₁]
        exact ⟨_, .refused hc, f₁⟩

/-! ## Handlers -/

theorem draft_spec (env : Environment σ) (c : Context) (iteration : UInt32)
    (message : Option String) (s : State) (w : World σ) :
    ∃ t s' res w', exec (State.draft env c iteration message) ⟨s, w⟩ = (res, ⟨s', w'⟩) ∧
      Draft s c iteration message t s' res ∧ w.Follows t [] w' := by
  cases hm : userMessage message with
  | error e =>
      exact ⟨[], s, .error e, w, by simp [State.draft, hm], .noMessage hm, .refl w⟩
  | ok text =>
      obtain ⟨t, plan, f₁⟩ := requestApproach_spec env c text w
      rcases hp : exec (State.requestApproach env c text) w with ⟨e | approach, w₁⟩
      · rw [hp] at plan f₁
        exact ⟨t, s, .error e, w₁, by simp [State.draft, hm, hp], .failed hm plan, f₁⟩
      · rw [hp] at plan f₁
        obtain ⟨w₂, h₂, f₂⟩ := emit_spec
          (.answer ⟨.answer, s.tabId, some approach, Chat.approachFollowUps⟩) w₁
        obtain ⟨token, w₃, h₃, f₃⟩ := newToken_spec w₂
        refine ⟨_, _, _, w₃, ?_, .done token hm plan, ?_⟩
        · simp [State.draft, State.announceApproach, hm, hp, h₂, h₃]
        · simpa [planShown] using (f₁.trans f₂).trans f₃

theorem generate_spec (env : Environment σ) (c : Context) (iteration : UInt32)
    (message : Option String) (keep : Changes → Stage) (s : State) (w : World σ) :
    ∃ t files s' res w',
      exec (State.generate env c iteration message keep) ⟨s, w⟩ = (res, ⟨s', w'⟩) ∧
      Round s c iteration message keep t files s' res ∧ w.Follows t files w' := by
  obtain ⟨t, generation, f₁⟩ := runGeneration_spec env s c message w
  rcases hg : exec (State.runGeneration env s c message) w with ⟨e | changes, w₁⟩
  · rw [hg] at generation f₁
    exact ⟨t, [], s, .error e, w₁, by simp [State.generate, hg], .failed generation, f₁⟩
  · rw [hg] at generation f₁
    obtain ⟨token, w₂, h₂, f₂⟩ := newToken_spec w₁
    refine ⟨t, _, _, _, w₂, ?_, .done token generation, ?_⟩
    · simp [State.generate, hg, h₂]
    · simpa [filesOf] using f₁.trans f₂

theorem regenerate_spec (env : Environment σ) (c : Context) (iteration : UInt32)
    (message : Option String) (s : State) (w : World σ) :
    ∃ t files s' res w',
      exec (State.regenerate env c iteration message) ⟨s, w⟩ = (res, ⟨s', w'⟩) ∧
      Regeneration s c iteration message t files s' res ∧ w.Follows t files w' := by
  cases hm : userMessage message with
  | error e =>
      exact ⟨[], [], s, .error e, w, by simp [State.regenerate, hm], .noMessage hm, .refl w⟩
  | ok text =>
      obtain ⟨t, files, s', res, w', h, round, f⟩ :=
        generate_spec env c iteration (some text) (.regenerating c iteration) s w
      exact ⟨t, files, s', res, w', by simp [State.regenerate, hm, h], .sent hm round, f⟩

theorem mock_spec (c : Context) (uploadId : String) (s : State) (w : World σ) :
    ∃ t files s' outcome w',
      exec (State.mock c uploadId) ⟨s, w⟩ = (.ok outcome, ⟨s', w'⟩) ∧
      Mock w.files s c uploadId t files s' outcome ∧ w.Follows t files w' := by
  cases hm : mockFiles w.files c.root with
  | error cause =>
      obtain ⟨token, w₁, h₁, f₁⟩ := newToken_spec w
      refine ⟨[], [], s, _, w₁, ?_, .unreadable token hm, f₁⟩
      simp [State.mock, hm, h₁]
  | ok found =>
      obtain ⟨w₁, h₁, f₁⟩ := stage_spec (found.map (StagedFile.ofGenerated uploadId)) w
      obtain ⟨w₂, h₂, f₂⟩ := announceChanges_spec s.tabId uploadId
        ⟨found.map (StagedFile.ofGenerated uploadId), []⟩ w₁
      obtain ⟨token, w₃, h₃, f₃⟩ := newToken_spec w₂
      refine ⟨_, _, _, _, w₃, ?_, .shown token hm rfl, ?_⟩
      · simp [State.mock, hm, h₁, h₂, h₃]
      · simpa using (f₁.trans f₂).trans f₃

theorem begin_spec (env : Environment σ) (c : Context) (message : Option String) (s : State)
    (w : World σ) (hs : s.stage = .awaitingTask c) :
    ∃ t res w', exec (State.begin env c message) ⟨s, w⟩ = (res, ⟨s, w'⟩) ∧
      Interaction env.format w.files s message t [] s res ∧ w.Follows t [] w' := by
  cases hm : userMessage message with
  | error e => exact ⟨[], .error e, w, by simp [State.begin, hm], .noTask hs hm, .refl w⟩
  | ok text =>
      obtain ⟨t, upload, f₁⟩ := uploadWorkspace_spec env c w
      rcases hu : exec (uploadWorkspace env c) w with ⟨e | id, w₁⟩
      · rw [hu] at upload f₁
        exact ⟨t, .error e, w₁, by simp [State.begin, hm, hu], .noUpload hs hm upload, f₁⟩
      · rw [hu] at upload f₁
        obtain ⟨token, w₂, h₂, f₂⟩ := childToken_spec s.token w₁
        obtain ⟨u, s', res, w₃, h₃, draft, f₃⟩ := draft_spec env (c.withUploadId id) 0 message
          { s with stage := .drafting (c.withUploadId id) 0, token } w₂
        refine ⟨t ++ u, res, w₃, ?_, .begun hs upload draft, ?_⟩
        · simp [State.begin, hm, hu, h₂, h₃]
        · simpa using (f₁.trans f₂).trans f₃

theorem divert_spec (env : Environment σ) (c : Context) (iteration : UInt32)
    (message : Option String) (s : State) (w : World σ) (hs : s.stage = .revising c iteration)
    (hm : State.wantsMock message = true) :
    ∃ t files res w', exec (State.divert env c) ⟨s, w⟩ = (res, ⟨s, w'⟩) ∧
      Interaction env.format w.files s message t files s res ∧ w.Follows t files w' := by
  obtain ⟨uploadId, w₁, h₁, f₁⟩ := freshId_spec env w
  obtain ⟨token, w₂, h₂, f₂⟩ := childToken_spec s.token w₁
  obtain ⟨t, files, s', outcome, w₃, h₃, mock, f₃⟩ := mock_spec c uploadId
    { s with stage := .mocking c uploadId [], token } w₂
  rw [f₂.files, f₁.files] at mock
  refine ⟨t, files, .ok outcome, w₃, ?_, .diverted hs hm mock, ?_⟩
  · simp [State.divert, h₁, h₂, h₃]
  · simpa using (f₁.trans f₂).trans f₃

theorem rework_spec (env : Environment σ) (c : Context) (iteration : UInt32) (changes : Changes)
    (message : Option String) (s : State) (w : World σ)
    (hs : s.stage = .reviewing c iteration changes) :
    ∃ t files res w', exec (State.rework env c iteration message) ⟨s, w⟩ = (res, ⟨s, w'⟩) ∧
      Interaction env.format w.files s message t files s res ∧ w.Follows t files w' := by
  cases hm : userMessage message with
  | error e =>
      exact ⟨[], [], .error e, w, by simp [State.rework, hm], .noFeedback hs hm, .refl w⟩
  | ok text =>
      obtain ⟨t, upload, f₁⟩ := uploadWorkspace_spec env c w
      rcases hu : exec (uploadWorkspace env c) w with ⟨e | id, w₁⟩
      · rw [hu] at upload f₁
        exact ⟨t, [], .error e, w₁, by simp [State.rework, hm, hu], .noReupload hs hm upload, f₁⟩
      · rw [hu] at upload f₁
        obtain ⟨token, w₂, h₂, f₂⟩ := childToken_spec s.token w₁
        obtain ⟨u, files, s', res, w₃, h₃, regeneration, f₃⟩ :=
          regenerate_spec env (c.withUploadId id) iteration message
            { s with stage := .regenerating (c.withUploadId id) iteration {}, token } w₂
        refine ⟨t ++ u, files, res, w₃, ?_, .reworked hs upload regeneration, ?_⟩
        · simp [State.rework, hm, hu, h₂, h₃]
        · simpa using (f₁.trans f₂).trans f₃

/-- Whatever a state does with a message has a transcript. -/
theorem interact_spec (env : Environment σ) (message : Option String) (s : State) (w : World σ) :
    ∃ t files s' res w',
      exec (State.interact env message) ⟨s, w⟩ = (res, ⟨s', w'⟩) ∧
      Interaction env.format w.files s message t files s' res ∧ w.Follows t files w' := by
  simp only [State.interact, exec_bind, exec_get]
  cases hs : s.stage with
  | notStarted => exact ⟨[], [], s, _, w, rfl, .tooEarly hs, .refl w⟩
  | awaitingTask c =>
      obtain ⟨t, res, w', h, interaction, f⟩ := begin_spec env c message s w hs
      exact ⟨t, [], s, res, w', h, interaction, f⟩
  | drafting c iteration =>
      obtain ⟨t, s', res, w', h, draft, f⟩ := draft_spec env c iteration message s w
      exact ⟨t, [], s', res, w', h, .drafted hs draft, f⟩
  | revising c iteration =>
      cases hm : State.wantsMock message with
      | true =>
          obtain ⟨t, files, res, w', h, interaction, f⟩ :=
            divert_spec env c iteration message s w hs hm
          exact ⟨t, files, s, res, w', h, interaction, f⟩
      | false =>
          obtain ⟨t, s', res, w', h, draft, f⟩ := draft_spec env c iteration message s w
          exact ⟨t, [], s', res, w', h, .revised hs hm draft, f⟩
  | generating c iteration changes =>
      obtain ⟨t, files, s', res, w', h, round, f⟩ :=
        generate_spec env c iteration none (.generating c iteration) s w
      exact ⟨t, files, s', res, w', h, .generated hs round, f⟩
  | mocking c uploadId old =>
      obtain ⟨t, files, s', outcome, w', h, mock, f⟩ := mock_spec c uploadId s w
      exact ⟨t, files, s', .ok outcome, w', h, .mocked hs mock, f⟩
  | reviewing c iteration changes =>
      obtain ⟨t, files, res, w', h, interaction, f⟩ :=
        rework_spec env c iteration changes message s w hs
      exact ⟨t, files, s, res, w', h, interaction, f⟩
  | regenerating c iteration changes =>
      obtain ⟨t, files, s', res, w', h, regeneration, f⟩ :=
        regenerate_spec env c iteration message s w
      exact ⟨t, files, s', res, w', h, .regenerated hs regeneration, f⟩

end Codewright.Session
