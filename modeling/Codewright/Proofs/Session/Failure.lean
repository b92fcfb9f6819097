import Codewright.Proofs.Session.Reachable
import Codewright.Proofs.Session.Snapshot

/-!
# Failure

Whatever fails leaves everything as it was: the state that handled the message, the staged files and
the workspace. Only a token that has been cancelled is replaced.
-/

namespace Codewright.Session

open Staging (StagedFile)
open Transcript
open Workspace (ArchiveFormat FileSystem Path)

variable {σ : Type}

/-- The conversation, the budget and all files are the same. -/
structure SameRecords (r r' : Running σ) : Prop where
  conversationId : r'.session.conversationId? = r.session.conversationId?
  task : r'.session.task = r.session.task
  retries : r'.session.retries = r.session.retries
  staged : r'.world.staged = r.world.staged
  files : r'.world.files = r.world.files

/-- The state is the same too, but for a token that has been cancelled. -/
structure Kept (r r' : Running σ) : Prop extends SameRecords r r' where
  stage : r'.session.state.stage = r.session.state.stage
  approach : r'.session.state.approach = r.session.state.approach
  tabId : r'.session.state.tabId = r.session.state.tabId
  token : r'.session.state.token = r.session.state.token ∨
    r'.world.tokens.isCancelled r.session.state.token

/-! ## Moves that fail -/

variable {format : ArchiveFormat} {x x' : Session} {w w' : World σ} {t : List LogEntry}
  {files : List StagedFile} {e : Error}

theorem Kept.of_world (hs : w'.staged = w.staged) (hf : w'.files = w.files) :
    Kept ⟨x, w⟩ ⟨x, w'⟩ :=
  ⟨⟨rfl, rfl, rfl, hs, hf⟩, rfl, rfl, rfl, .inl rfl⟩

namespace Transcript

theorem Forward.kept {message : Option String} {res : Except Error (Option String)}
    (h : Forward format w.files w'.tokens x message t files x' res) (hres : res = .error e)
    (hs : w'.staged = w.staged.registerAll files) (hf : w'.files = w.files) :
    Kept ⟨x, w⟩ ⟨x', w'⟩ := by
  subst hres
  rcases h.outcome with ⟨token, e', v, rfl, -, rfl, ht, -⟩ | ⟨s', outcome, v, -, he, -⟩
  · exact ⟨⟨rfl, rfl, rfl, hs, hf⟩, rfl, rfl, rfl, ht⟩
  · cases he

theorem Acceptance.eq_of_error (h : Acceptance x x' (.error e)) : x' = x := by
  cases h with
  | noUpload | tooEarly | noPlan => rfl

/-- When the plan is accepted, code is wanted for it in the same context. -/
theorem Acceptance.generating (h : Acceptance x x' (.ok ⟨⟩)) (hs : x.state.stage.Resting) :
    ∃ c, x'.state.stage = .generating c 0 {} ∧ x.state.stage.context? = some c ∧
      x'.state.approach = x.state.approach ∧ x' = { x with state := x'.state } := by
  cases h with
  | before hst =>
      rw [hst] at hs
      obtain ⟨_, rfl, rfl⟩ := hs
      exact ⟨_, hst, by rw [hst]; rfl, rfl, rfl⟩
  | now _ hst _ => exact ⟨_, rfl, by rw [hst]; rfl, rfl, rfl⟩

theorem Step.kept {m : Move} {res : Except Error Reply}
    (h : Step format w.files w'.tokens x m t files x' res) (hres : res = .error e)
    (hm : m ≠ .generateCode) (hs : w'.staged = w.staged.registerAll files)
    (hf : w'.files = w.files) : Kept ⟨x, w⟩ ⟨x', w'⟩ := by
  cases h with
  | startedBefore | started | written | handled | cancelled | edited => cases hres
  | notStarted | notWritten => exact .of_world hs hf
  | @sent message _ _ _ res forward =>
      cases res with
      | ok => cases hres
      | error =>
          have hk := forward.kept rfl hs hf
          exact { hk with }
  | @retried _ _ _ res forward =>
      cases res with
      | ok => cases hres
      | error => exact forward.kept rfl hs hf
  | @accepted _ res acceptance =>
      cases res with
      | ok => cases hres
      | error =>
          obtain rfl := acceptance.eq_of_error
          exact .of_world hs hf
  | notAccepted | generated => exact absurd rfl hm

end Transcript

theorem kept_of_error {env : Environment σ} {m : Move} {r r' : Running σ}
    (h : exec (m.perform env) r = (.error e, r')) (hm : m ≠ .generateCode)
    (hw : m.touchesWorkspace = false) : Kept r r' := by
  obtain ⟨t, files, x', res, w', hrun, step, -, hs, hf⟩ := perform_spec env m r.session r.world
  obtain ⟨rfl, rfl⟩ := Prod.mk.inj (hrun.symm.trans h)
  exact step.kept rfl hm hs (hf hw)

theorem interact_of_error {env : Environment σ} {message : Option String} {a a' : Acting σ}
    (h : exec (State.interact env message) a = (.error e, a')) :
    a'.state = a.state ∧ a'.world.staged = a.world.staged ∧ a'.world.files = a.world.files := by
  obtain ⟨t, files, s', res, w', hrun, interaction, f⟩ := interact_spec env message a.state a.world
  obtain ⟨rfl, rfl⟩ := Prod.mk.inj (hrun.symm.trans h)
  obtain ⟨rfl, rfl⟩ := interaction.of_error
  exact ⟨rfl, f.staged, f.files⟩

theorem generateCode_of_error {env : Environment σ} {r r' : Running σ}
    (h : exec (generateCode env) r = (.error e, r')) (hs : r.session.state.stage.Resting) :
    exec acceptPlan r = (.error e, r') ∧ Kept r r' ∨
      ∃ r₁ c, exec acceptPlan r = (.ok ⟨⟩, r₁) ∧ SameRecords r r₁ ∧
        r.session.state.stage.context? = some c ∧
        r₁.session.state.stage = .generating c 0 {} ∧
        r₁.session.state.approach = r.session.state.approach ∧ Kept r₁ r' := by
  obtain ⟨x₁, res₁, w₁, h₁, acceptance, f₁⟩ := acceptPlan_spec r.session r.world
  rcases generateCode_cases env r.session r.world with ⟨e', r₂, h₂, hrun⟩ |
    ⟨x₂, w₂, t, files, x', res, w', h₂, hrun, forward, f⟩
  · obtain ⟨he, rfl⟩ := Prod.mk.inj (hrun.symm.trans h)
    cases he
    obtain ⟨rfl, rfl⟩ := Prod.mk.inj (h₁.symm.trans h₂)
    obtain rfl := acceptance.eq_of_error
    exact .inl ⟨h₂, .of_world f₁.staged f₁.files⟩
  · obtain ⟨rfl, rfl⟩ := Prod.mk.inj (hrun.symm.trans h)
    obtain ⟨rfl, hr⟩ := Prod.mk.inj (h₁.symm.trans h₂)
    obtain ⟨rfl, rfl⟩ := Running.mk.inj hr
    obtain ⟨c, hst, hc, ha, hx⟩ := acceptance.generating hs
    refine .inr ⟨_, c, h₂, ?_, hc, hst, ha, forward.kept rfl f.staged f.files⟩
    refine ⟨?_, by rw [hx], by rw [hx], f₁.staged, f₁.files⟩
    rw [conversationId?, conversationId?, hst, hc]
    rfl

/-- A state that fails to handle a message stays as it is, and so does all that is staged. A move
that fails keeps the session, except that a failure to generate code leaves the plan accepted. -/
theorem failure_keeps_all (env : Environment σ) :
    (∀ message (a a' : Acting σ) e, exec (State.interact env message) a = (.error e, a') →
      a'.state = a.state ∧ a'.world.staged = a.world.staged ∧ a'.world.files = a.world.files) ∧
    (∀ (m : Move) (r r' : Running σ) e, m ≠ .generateCode → m.touchesWorkspace = false →
      exec (m.perform env) r = (.error e, r') → Kept r r') ∧
    ∀ settings root tabId outside files moves (r' : Running σ) e,
      let r := run env (Session.new settings root tabId outside files) moves
      exec (generateCode env) r = (.error e, r') →
      exec acceptPlan r = (.error e, r') ∧ Kept r r' ∨
        ∃ r₁ c, exec acceptPlan r = (.ok ⟨⟩, r₁) ∧ SameRecords r r₁ ∧
          r.session.state.stage.context? = some c ∧
          r₁.session.state.stage = .generating c 0 {} ∧
          r₁.session.state.approach = r.session.state.approach ∧ Kept r₁ r' := by
  refine ⟨fun _ _ _ _ h => interact_of_error h, fun _ _ _ _ hm hw h => kept_of_error h hm hw, ?_⟩
  intro settings root tabId outside files moves r' e r h
  have hr := (Sound.new settings root tabId outside files).run env moves
  exact generateCode_of_error h hr.resting

theorem failure_keeps_all_planned :
    let env := obliging (.error ⟨.throttled, "refused"⟩) ⟨[], []⟩
    let r := planned env
    let r' := (exec (generateCode env) r).2
    let r₀ := Session.new {} sampleRoot "tab" () sample
    ((exec (State.interact env none) ⟨r₀.session.state, r₀.world⟩).1 =
        .error .illegalStateTransition ∧
      (exec (State.interact env none) ⟨r₀.session.state, r₀.world⟩).2.state = r₀.session.state) ∧
      ((exec (Move.retry.perform env) r₀).1 = .error .illegalStateTransition ∧
        Kept r₀ (exec (Move.retry.perform env) r₀).2) ∧
      (exec (generateCode env) r).1 = .error (.serverSide .codeGen ⟨.throttled, "refused"⟩) ∧
      ∃ r₁, exec acceptPlan r = (.ok ⟨⟩, r₁) ∧ Kept r₁ r' := by
  intro env r r' r₀
  obtain ⟨hstate, hmove, hcode⟩ := failure_keeps_all env
  have hr : r = _ := planned_obliging
  have hrun : (exec (generateCode env) r).1 =
      .error (.serverSide .codeGen ⟨.throttled, "refused"⟩) := by
    rw [hr]
    rfl
  have hplan : (exec acceptPlan r).1 = .ok ⟨⟩ := by
    rw [hr]
    rfl
  refine ⟨⟨rfl, (hstate none ⟨r₀.session.state, r₀.world⟩ _ _ rfl).1⟩,
    ⟨rfl, hmove .retry r₀ _ _ nofun rfl rfl⟩, hrun, ?_⟩
  rcases hcode {} sampleRoot "tab" () sample [.preload "task", .send "message"] r' _
    (Prod.ext hrun rfl) with ⟨h, -⟩ | ⟨r₁, c, h, -, -, -, -, hk⟩
  · cases (congrArg Prod.fst h).symm.trans hplan
  · exact ⟨r₁, h, hk⟩

end Codewright.Session
