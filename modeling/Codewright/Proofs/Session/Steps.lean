import Codewright.Proofs.Session.Transcript
import Codewright.Proofs.Session.Writing

/-!
# Every move has a transcript

The transcripts of interactions put together to those of everything that can be done with a session.
-/

namespace Codewright.Session

open Staging (StagedFile)
open Transcript
open Workspace (ArchiveFormat FileSystem IoError)

variable {α β σ : Type}

/-! ## Forwarding -/

theorem renewToken_spec (r : Running σ) :
    ∃ token w',
      exec renewToken r =
        (.ok ⟨⟩, ⟨{ r.session with state := { r.session.state with token } }, w'⟩) ∧
      (token = r.session.state.token ∨ w'.tokens.isCancelled r.session.state.token) ∧
      r.world.Follows [] [] w' := by
  cases hc : r.world.tokens.isCancelled r.session.state.token with
  | true =>
      refine ⟨r.world.tokens.fresh.1, { r.world with tokens := r.world.tokens.fresh.2 }, ?_, ?_, ?_⟩
      · simp [renewToken, hc]
        rfl
      · exact .inr hc
      · exact ⟨rfl, rfl, rfl⟩
  | false =>
      refine ⟨r.session.state.token, r.world, ?_, .inl rfl, .refl _⟩
      simp [renewToken, hc]

theorem forward_spec (env : Environment σ) (message : Option String) (x : Session) (w : World σ) :
    ∃ t files x' res w', exec (forward env message) ⟨x, w⟩ = (res, ⟨x', w'⟩) ∧
      Forward env.format w.files w'.tokens x message t files x' res ∧ w.Follows t files w' := by
  obtain ⟨w₁, h₁, f₁⟩ := emit_spec (.progress x.tabId true none) w
  obtain ⟨t, files, s', res, w₂, h₂, interaction, f₂⟩ := interact_spec env message x.state w₁
  obtain ⟨w₃, h₃, f₃⟩ := emit_spec (.progress x.tabId false none) w₂
  rw [f₁.files] at interaction
  cases res with
  | error e =>
      obtain ⟨token, w₄, h₄, ht, f₄⟩ := renewToken_spec ⟨{ x with state := s' }, w₃⟩
      refine ⟨_, files, _, _, w₄, ?_, .failed interaction ht, ?_⟩
      · simp [forward, h₁, h₂, h₃, h₄]
      · simpa using (f₁.trans f₂).trans (f₃.trans f₄)
  | ok outcome =>
      refine ⟨_, files, _, _, { w₃ with tokens := w₃.tokens.cancel s'.token }, ?_,
        .done interaction, ?_⟩
      · simp [forward, h₁, h₂, h₃]
      · have f₄ : w₃.Follows [] [] { w₃ with tokens := w₃.tokens.cancel s'.token } :=
          ⟨rfl, rfl, rfl⟩
        simpa using (f₁.trans f₂).trans (f₃.trans f₄)

/-! ## Starting and accepting the plan -/

theorem preload_spec (env : Environment σ) (message : String) (x : Session) (w : World σ) :
    ∃ t x' res w', exec (preload env message) ⟨x, w⟩ = (res, ⟨x', w'⟩) ∧
      Step env.format w.files w'.tokens x (.preload message) t [] x' (res.map fun _ => .done) ∧
      w.Follows t [] w' := by
  cases hs : x.state.stage with
  | notStarted =>
      obtain ⟨w₁, ⟨id, h₁, f₁⟩ | ⟨e, h₁, f₁⟩⟩ :=
        call_spec env .createConversation (.serverSide .conversation) w
      · obtain ⟨token, w₂, h₂, f₂⟩ := newToken_spec w₁
        refine ⟨_, _, .ok ⟨⟩, w₂, ?_, .started token hs, by simpa using f₁.trans f₂⟩
        simp [preload, hs, h₁, h₂]
      · exact ⟨_, x, .error _, w₁, by simp [preload, hs, h₁], .notStarted hs, f₁⟩
  | _ =>
      exact ⟨[], x, .ok ⟨⟩, w, by simp [preload, hs], .startedBefore (by simp [hs]), .refl w⟩

theorem acceptPlan_spec (x : Session) (w : World σ) :
    ∃ x' res w', exec acceptPlan ⟨x, w⟩ = (res, ⟨x', w'⟩) ∧ Acceptance x x' res ∧
      w.Follows [] [] w' := by
  cases hs : x.state.stage with
  | notStarted => exact ⟨x, _, w, by simp [acceptPlan, hs], .tooEarly hs, .refl w⟩
  | revising c iteration =>
      cases hc : c.uploadId with
      | none =>
          refine ⟨x, _, w, ?_, .noUpload hs hc, .refl w⟩
          simp [acceptPlan, hs, Context.requireUploadId, hc]
      | some uploadId =>
          obtain ⟨token, w₁, h₁, f₁⟩ := newToken_spec w
          refine ⟨_, _, w₁, ?_, .now token hs hc, f₁⟩
          simp [acceptPlan, hs, Context.requireUploadId, hc, h₁]
  | generating c iteration changes =>
      exact ⟨x, _, w, by simp [acceptPlan, hs], .before hs, .refl w⟩
  | awaitingTask c | drafting c _ | mocking c _ _ | reviewing c _ _ | regenerating c _ _ =>
      refine ⟨x, _, w, by simp [acceptPlan, hs], .noPlan (c := c) ?_, .refl w⟩
      rw [hs, Stage.context?]

/-- Generating code is accepting the plan and, if that works out, forwarding no message. -/
theorem generateCode_cases (env : Environment σ) (x : Session) (w : World σ) :
    (∃ e r, exec acceptPlan ⟨x, w⟩ = (.error e, r) ∧
        exec (generateCode env) ⟨x, w⟩ = (.error e, r)) ∨
      ∃ x₁ w₁ t files x' res w', exec acceptPlan ⟨x, w⟩ = (.ok ⟨⟩, ⟨x₁, w₁⟩) ∧
        exec (generateCode env) ⟨x, w⟩ = (res, ⟨x', w'⟩) ∧
        Forward env.format w₁.files w'.tokens x₁ none t files x' res ∧
        w₁.Follows (.event (.chatInputEnabled x₁.tabId false) ::
          .event (.updatePlaceholder x₁.tabId writingPlaceholder) ::
          (t ++ [.event (.chatInputEnabled x₁.tabId true),
            .event (.updatePlaceholder x₁.tabId feedbackPlaceholder)])) files w' := by
  rcases h₁ : exec acceptPlan ⟨x, w⟩ with ⟨e | _, ⟨x₁, w₁⟩⟩
  · exact .inl ⟨e, _, rfl, by simp [generateCode, h₁]⟩
  obtain ⟨w₂, h₂, f₂⟩ := emit_spec (.chatInputEnabled x₁.tabId false) w₁
  obtain ⟨w₃, h₃, f₃⟩ := emit_spec (.updatePlaceholder x₁.tabId writingPlaceholder) w₂
  obtain ⟨t, files, x', res, w₄, h₄, forward, f₄⟩ := forward_spec env none x₁ w₃
  -- What follows leaves the tokens as forwarding has left them.
  let w₅ : World σ := { w₄ with log := .event (.chatInputEnabled x₁.tabId true) :: w₄.log }
  let w₆ : World σ :=
    { w₅ with log := .event (.updatePlaceholder x₁.tabId feedbackPlaceholder) :: w₅.log }
  have h₅ : exec (Action.emit (.chatInputEnabled x₁.tabId true)) w₄ = (.ok ⟨⟩, w₅) := rfl
  have h₆ : exec (Action.emit (.updatePlaceholder x₁.tabId feedbackPlaceholder)) w₅ =
      (.ok ⟨⟩, w₆) := rfl
  have f₆ : w₄.Follows [.event (.chatInputEnabled x₁.tabId true),
      .event (.updatePlaceholder x₁.tabId feedbackPlaceholder)] [] w₆ := ⟨rfl, rfl, rfl⟩
  rw [f₃.files, f₂.files] at forward
  refine .inr ⟨x₁, w₁, t, files, x', res, w₆, rfl, ?_, forward, ?_⟩
  · cases res <;> simp [generateCode, h₁, h₂, h₃, h₄, h₅, h₆]
  · simpa using (f₂.trans (f₃.trans f₄)).trans f₆

theorem generateCode_spec (env : Environment σ) (x : Session) (w : World σ) :
    ∃ t files x' res w', exec (generateCode env) ⟨x, w⟩ = (res, ⟨x', w'⟩) ∧
      Step env.format w.files w'.tokens x .generateCode t files x' (res.map .content) ∧
      w.Follows t files w' := by
  obtain ⟨x₁, res₁, w₁, h₁, acceptance, f₁⟩ := acceptPlan_spec x w
  rcases generateCode_cases env x w with ⟨e, r, h, hrun⟩ |
    ⟨x₂, w₂, t, files, x', res, w', h, hrun, forward, f⟩
  · obtain ⟨rfl, rfl⟩ := Prod.mk.inj (h₁.symm.trans h)
    exact ⟨[], [], x₁, .error e, w₁, hrun, .notAccepted acceptance, f₁⟩
  · obtain ⟨rfl, h₂⟩ := Prod.mk.inj (h₁.symm.trans h)
    obtain ⟨rfl, rfl⟩ := Running.mk.inj h₂
    rw [f₁.files] at forward
    exact ⟨_, files, x', res, w', hrun, .generated acceptance forward, by simpa using f₁.trans f⟩

/-! ## Changing the workspace -/

theorem acceptChanges_spec (format : ArchiveFormat) (disk : Disk) (x : Session) (w : World σ) :
    ∃ t res fs, exec (acceptChanges disk) ⟨x, w⟩ =
        (res, ⟨x, { w with files := fs, log := t.reverse ++ w.log }⟩) ∧
      Step format w.files w.tokens x (.acceptChanges disk) t [] x (res.map .accepted) := by
  obtain ⟨e | done, fs, h, he⟩ := onlyWrites_writeChanges disk x.root x.state.stage.changes w
  · obtain ⟨path, cause, rfl⟩ := he e rfl
    exact ⟨[], .error (.workspaceWrite path cause), fs, by simp [exec_acceptChanges, h],
      .notWritten⟩
  · refine ⟨_, .ok done, fs, ?_, .written⟩
    simp [exec_acceptChanges, h]

/-! ## Moves -/

/-- Whatever is done with a session has a transcript. -/
theorem perform_spec (env : Environment σ) (m : Move) (x : Session) (w : World σ) :
    ∃ t files x' res w', exec (m.perform env) ⟨x, w⟩ = (res, ⟨x', w'⟩) ∧
      Step env.format w.files w'.tokens x m t files x' res ∧ w'.log = t.reverse ++ w.log ∧
      w'.staged = w.staged.registerAll files ∧
      (m.touchesWorkspace = false → w'.files = w.files) := by
  cases m with
  | preload message =>
      obtain ⟨t, x', res, w', h, step, f⟩ := preload_spec env message x w
      refine ⟨t, [], x', res.map fun _ => .done, w', ?_, step, f.log, f.staged, fun _ => f.files⟩
      cases res <;> simp [Move.perform, h, Except.map]
  | send message =>
      obtain ⟨t, files, x', res, w', h, forward, f⟩ :=
        forward_spec env (some message) { x with lastMessage := some message } w
      refine ⟨t, files, x', res.map .content, w', ?_, .sent forward, f.log, f.staged,
        fun _ => f.files⟩
      cases res <;> simp [Move.perform, send, h, Except.map]
  | retry =>
      obtain ⟨t, files, x', res, w', h, forward, f⟩ := forward_spec env x.lastMessage x w
      refine ⟨t, files, x', res.map .content, w', ?_, .retried forward, f.log, f.staged,
        fun _ => f.files⟩
      cases res <;> simp [Move.perform, retry, h, Except.map]
  | acceptPlan =>
      obtain ⟨x', res, w', h, acceptance, f⟩ := acceptPlan_spec x w
      refine ⟨[], [], x', res.map fun _ => .done, w', ?_, .accepted acceptance, f.log, f.staged,
        fun _ => f.files⟩
      cases res <;> simp [Move.perform, h, Except.map]
  | generateCode =>
      obtain ⟨t, files, x', res, w', h, step, f⟩ := generateCode_spec env x w
      refine ⟨t, files, x', res.map .content, w', ?_, step, f.log, f.staged, fun _ => f.files⟩
      cases res <;> simp [Move.perform, h, Except.map]
  | acceptChanges disk =>
      obtain ⟨t, res, fs, h, step⟩ := acceptChanges_spec env.format disk x w
      refine ⟨t, [], x, res.map .accepted, { w with files := fs, log := t.reverse ++ w.log }, ?_,
        step, rfl, rfl, fun h => by cases h⟩
      cases res <;> simp [Move.perform, h, Except.map]
  | handleError e =>
      exact ⟨_, [], _, .ok .done, { w with log := _ :: w.log }, rfl, .handled, rfl, rfl,
        fun _ => rfl⟩
  | cancel token =>
      exact ⟨[], [], x, .ok .done, { w with tokens := w.tokens.cancel token }, rfl, .cancelled,
        rfl, rfl, fun _ => rfl⟩
  | edit files =>
      exact ⟨[], [], x, .ok .done, { w with files }, rfl, .edited, rfl, rfl, fun h => by cases h⟩

/-! ## Runs -/

/-- What holds at the start of a run and is kept by every move holds at its end. -/
theorem run_induction {P : Running σ → Prop} (env : Environment σ) {r : Running σ} (start : P r)
    (move : ∀ r m, P r → P (exec (Move.perform env m) r).2) (moves : List Move) :
    P (run env r moves) := by
  induction moves generalizing r with
  | nil => exact start
  | cons m moves ih => exact ih (move r m start)

theorem run_concat (env : Environment σ) (r : Running σ) (moves : List Move) (m : Move) :
    run env r (moves ++ [m]) = (exec (m.perform env) (run env r moves)).2 :=
  List.foldl_append

end Codewright.Session
