import Codewright.Proofs.Session.Entries
import Codewright.Proofs.Session.Reachable
import Codewright.Proofs.Session.Snapshot

/-!
# The history of a session

The approach that a state holds is the last plan of the service, as the user has been shown it. The
number of a round tells how often code has been generated, or how many plans there have been since
files of the workspace stood in for code.
-/

namespace Codewright.Session

open Staging (StagedFile)
open Transcript
open Workspace (ArchiveFormat FileSystem Path)

variable {σ : Type}

/-- What a message has led to that was handled with success. -/
inductive Turn where
  | plan
  /-- Files of the workspace stand in for generated ones. -/
  | diversion
  | code
  deriving DecidableEq

/-- What a stage makes of a message that it handles with success. -/
def Stage.turn? (message : Option String) : Stage → Option Turn
  | notStarted => none
  | awaitingTask _ | drafting _ _ => some .plan
  | revising _ _ => if State.wantsMock message then some .diversion else some .plan
  | mocking _ _ _ => some .diversion
  | generating _ _ _ | reviewing _ _ _ | regenerating _ _ _ => some .code

/-- What a move has led to with the session `x`, if a message was handled with success. -/
def Move.turn? (x : Session) : Move → Except Error Reply → Option Turn
  | .send message, .ok _ => x.state.stage.turn? (some message)
  | .retry, .ok _ => x.state.stage.turn? x.lastMessage
  | .generateCode, .ok _ => some .code
  | _, _ => none

/-- What the moves of a run have led to, latest first. -/
def turns (env : Environment σ) (r : Running σ) : List Move → List Turn
  | [] => []
  | m :: moves =>
    let (res, r') := exec (m.perform env) r
    turns env r' moves ++ (m.turn? r.session res).toList

/-- The number of plans since files of the workspace stood in for generated ones. -/
def plansSinceDiversion (past : List Turn) : Nat :=
  (past.takeWhile (· ≠ .diversion)).count .plan

namespace LogEntry

/-- The plan that the service has made, if it has answered with one. -/
def plan? : LogEntry → Option (Option String)
  | .call (.generatePlan _ _ _) (.ok plan) => some plan
  | _ => none

/-- The approach that the user is shown, with what can be done with it. -/
def approach? : LogEntry → Option String
  | .event (.answer a) => if a.followUps = Chat.approachFollowUps then a.message else none
  | _ => none

end LogEntry

/-- Without a plan to show there is a text in its place, and what is shown has no markup. -/
theorem approachOfPlan_eq (plan : Option String) :
    approachOfPlan plan =
      Markup.sanitize ((plan.filter (!Text.isBlankText ·)).getD fallbackApproach) := by
  cases plan with
  | none => rfl
  | some p => cases h : Text.isBlankText p <;> simp [approachOfPlan, Option.filter, h]

/-! ## Rounds -/

/-- The round of a stage agrees with what has happened. -/
def Stage.Counts (past : List Turn) : Stage → Prop
  | notStarted | awaitingTask _ => past = []
  | drafting _ n => n = .ofNat (plansSinceDiversion past) ∧ past.count .code = 0
  | revising _ n =>
    n = .ofNat (plansSinceDiversion past) ∧ past.count .code = 0 ∧ 1 ≤ plansSinceDiversion past
  | generating _ n _ => n = 0 ∧ past.count .code = 0
  | reviewing _ n _ => n = .ofNat (past.count .code) ∧ 1 ≤ past.count .code
  | mocking _ _ _ | regenerating _ _ _ => False

theorem plansSinceDiversion_plan (past : List Turn) :
    plansSinceDiversion (.plan :: past) = plansSinceDiversion past + 1 := by
  simp [plansSinceDiversion]

namespace Transcript

variable {c : Context} {format : ArchiveFormat} {fs : FileSystem} {s s' : State} {x x' : Session}
  {iteration : UInt32}
  {message : Option String} {t : List LogEntry} {files : List StagedFile} {past : List Turn}
  {outcome : Outcome}

theorem Draft.counts (h : Draft s c iteration message t s' (.ok outcome))
    (hn : iteration = .ofNat (plansSinceDiversion past)) (hc : past.count .code = 0) :
    outcome.next.stage.Counts (.plan :: past) := by
  have hplans := plansSinceDiversion_plan past
  rw [h.next.1, hn]
  refine ⟨?_, hc, hplans ▸ Nat.le_add_left ..⟩
  rw [hplans, UInt32.ofNat_add]
  rfl

theorem Mock.counts {uploadId : String} (h : Mock fs s c uploadId t files s' outcome)
    (hc : past.count .code = 0) : outcome.next.stage.Counts (.diversion :: past) := by
  rw [h.next.1]
  exact ⟨rfl, hc⟩

theorem Round.counts {keep : Changes → Stage}
    (h : Round s c iteration message keep t files s' (.ok outcome))
    (hn : iteration = .ofNat (past.count .code)) : outcome.next.stage.Counts (.code :: past) := by
  obtain ⟨changes, hnext, -⟩ := h.next
  have hcode : (Turn.code :: past).count .code = past.count .code + 1 := List.count_cons_self
  rw [hnext, hn]
  refine ⟨?_, hcode ▸ Nat.le_add_left ..⟩
  rw [hcode, UInt32.ofNat_add]
  rfl

theorem Regeneration.counts (h : Regeneration s c iteration message t files s' (.ok outcome))
    (hn : iteration = .ofNat (past.count .code)) :
    outcome.next.stage.Counts (.code :: past) := by
  cases h with
  | sent _ round => exact round.counts hn

theorem Interaction.counts (h : Interaction format fs s message t files s' (.ok outcome))
    (hs : s.stage.Counts past) :
    outcome.next.stage.Counts ((s.stage.turn? message).toList ++ past) := by
  cases h with
  | begun hst _ draft =>
      rw [hst] at hs ⊢
      obtain rfl : past = [] := hs
      exact draft.counts rfl rfl
  | drafted hst draft =>
      rw [hst] at hs ⊢
      exact draft.counts hs.1 hs.2
  | revised hst hm draft =>
      rw [hst] at hs ⊢
      rw [Stage.turn?, hm]
      exact draft.counts hs.1 hs.2.1
  | diverted hst hm mock =>
      rw [hst] at hs ⊢
      rw [Stage.turn?, hm]
      exact mock.counts hs.2.1
  | generated hst round =>
      rw [hst] at hs ⊢
      have hnone : (.ofNat (past.count .code) : UInt32) = 0 := congrArg UInt32.ofNat hs.2
      exact round.counts (hs.1.trans hnone.symm)
  | reworked hst _ regeneration =>
      rw [hst] at hs ⊢
      exact regeneration.counts hs.1
  | mocked hst | regenerated hst =>
      rw [hst] at hs
      exact hs.elim

theorem Acceptance.counts {res : Except Error Unit} (h : Acceptance x x' res)
    (hs : x.state.stage.Counts past) : x'.state.stage.Counts past := by
  cases h with
  | before | noUpload | tooEarly | noPlan => exact hs
  | now _ hst _ =>
      rw [hst] at hs
      exact ⟨rfl, hs.2.1⟩

/-- Once the plan is accepted, code is what comes next. -/
theorem Acceptance.turn?_eq (h : Acceptance x x' (.ok ())) :
    x'.state.stage.turn? message = some .code := by
  cases h with
  | before hst =>
      rw [hst]
      rfl
  | now => rfl

end Transcript

/-! ## Plans -/

/-- The service has made no plan, and the user has been shown none. -/
structure Unplanned (t : List LogEntry) : Prop where
  made : t.filterMap LogEntry.plan? = []
  shown : t.filterMap LogEntry.approach? = []

theorem Unplanned.append {t u : List LogEntry} (h : Unplanned t) (hu : Unplanned u) :
    Unplanned (t ++ u) where
  made := by rw [List.filterMap_append, h.made, hu.made, List.append_nil]
  shown := by rw [List.filterMap_append, h.shown, hu.shown, List.append_nil]

/-- What happens to the approach: it stays, or the service has made a plan, which the user has been
shown and which is the approach from now on. -/
inductive Planned (approach : String) (turn? : Option Turn) (t : List LogEntry) :
    String → Prop where
  | kept : turn? ≠ some .plan → Unplanned t → Planned approach turn? t approach
  | replaced {plan : Option String} : turn? = some .plan → t.filterMap LogEntry.plan? = [plan] →
      t.filterMap LogEntry.approach? = [approachOfPlan plan] →
      Planned approach turn? t (approachOfPlan plan)

theorem Planned.around {approach new : String} {turn? : Option Turn} {t u v : List LogEntry}
    (h : Planned approach turn? t new) (hu : Unplanned u) (hv : Unplanned v) :
    Planned approach turn? (u ++ (t ++ v)) new := by
  cases h with
  | kept ht h => exact .kept ht (hu.append (h.append hv))
  | replaced ht hmade hshown =>
      refine .replaced ht ?_ ?_
      · rw [List.filterMap_append, List.filterMap_append, hu.made, hmade, hv.made]
        rfl
      · rw [List.filterMap_append, List.filterMap_append, hu.shown, hshown, hv.shown]
        rfl

namespace Transcript

variable {c : Context} {format : ArchiveFormat} {fs : FileSystem} {s s' : State}
  {iteration : UInt32}
  {message : Option String} {t : List LogEntry} {files : List StagedFile} {outcome : Outcome}

theorem Upload.unplanned {res : Except Error String} (h : Upload format c fs t res) :
    Unplanned t := by
  cases h with
  | unreadable | refused | broken | done => exact ⟨rfl, rfl⟩

theorem Plan.unplanned {text : String} {e : Error} (h : Plan c text t (.error e)) :
    Unplanned t := by
  cases h with
  | noUpload | refused => exact ⟨rfl, rfl⟩

theorem Poll.unplanned {pauseMs n : Nat} {job : Job} {res : Except Error JobResult}
    (h : Poll pauseMs job n t res) : Unplanned t := by
  induction h with
  | pending _ _ ih => exact ⟨ih.made, ih.shown⟩
  | cancelled | timeout | refused | failed | unknown | lost | complete => exact ⟨rfl, rfl⟩

theorem unplanned_changesShown (tabId uploadId : String) (changes : Changes) :
    Unplanned (changesShown tabId uploadId changes) :=
  ⟨rfl, rfl⟩

theorem Generation.unplanned {res : Except Error Changes} (h : Generation s c message t res) :
    Unplanned t := by
  have shown : Unplanned [jobShown s.tabId] := ⟨rfl, rfl⟩
  cases h with
  | noUpload | refused => exact ⟨rfl, rfl⟩
  | failed _ poll | cancelled _ poll =>
      have h := shown.append poll.unplanned
      exact ⟨h.made, h.shown⟩
  | @complete uploadId _ _ changes _ poll =>
      have h := shown.append
        (poll.unplanned.append (unplanned_changesShown s.tabId uploadId changes))
      exact ⟨h.made, h.shown⟩

theorem Draft.unplanned {e : Error} (h : Draft s c iteration message t s' (.error e)) :
    Unplanned t := by
  cases h with
  | noMessage => exact ⟨rfl, rfl⟩
  | failed _ plan => exact plan.unplanned

theorem Draft.planned (h : Draft s c iteration message t s' (.ok outcome)) :
    Planned s.approach (some .plan) t outcome.next.approach := by
  cases h with
  | done _ _ plan =>
      cases plan with
      | done => exact .replaced rfl rfl rfl

theorem Round.unplanned {keep : Changes → Stage} {res : Except Error Outcome}
    (h : Round s c iteration message keep t files s' res) : Unplanned t := by
  match h with
  | .failed generation | .done _ generation => exact generation.unplanned

theorem Round.approach_eq {keep : Changes → Stage}
    (h : Round s c iteration message keep t files s' (.ok outcome)) :
    outcome.next.approach = s.approach := by
  cases h with
  | done => rfl

theorem Regeneration.unplanned {res : Except Error Outcome}
    (h : Regeneration s c iteration message t files s' res) : Unplanned t := by
  match h with
  | .noMessage _ => exact ⟨rfl, rfl⟩
  | .sent _ round => exact round.unplanned

theorem Regeneration.approach_eq (h : Regeneration s c iteration message t files s' (.ok outcome)) :
    outcome.next.approach = s.approach := by
  cases h with
  | sent _ round => exact round.approach_eq

theorem Mock.unplanned {uploadId : String} (h : Mock fs s c uploadId t files s' outcome) :
    Unplanned t := by
  cases h with
  | unreadable => exact ⟨rfl, rfl⟩
  | shown => exact unplanned_changesShown ..

theorem Mock.approach_eq {uploadId : String} (h : Mock fs s c uploadId t files s' outcome) :
    outcome.next.approach = s.approach := by
  cases h with
  | unreadable | shown => rfl

theorem Interaction.unplanned {e : Error}
    (h : Interaction format fs s message t files s' (.error e)) :
    Unplanned t := by
  cases h with
  | tooEarly | noTask | noFeedback => exact ⟨rfl, rfl⟩
  | noUpload _ _ upload | noReupload _ _ upload => exact upload.unplanned
  | begun _ upload draft => exact upload.unplanned.append draft.unplanned
  | drafted _ draft | revised _ _ draft => exact draft.unplanned
  | generated _ round => exact round.unplanned
  | reworked _ upload regeneration => exact upload.unplanned.append regeneration.unplanned
  | regenerated _ regeneration => exact regeneration.unplanned

theorem Interaction.planned (h : Interaction format fs s message t files s' (.ok outcome)) :
    Planned s.approach (s.stage.turn? message) t outcome.next.approach := by
  cases h with
  | @begun _ _ t u _ _ _ hst upload draft =>
      have h := draft.planned.around upload.unplanned (v := []) ⟨rfl, rfl⟩
      rw [List.append_nil] at h
      rw [hst]
      exact h
  | drafted hst draft =>
      rw [hst]
      exact draft.planned
  | revised hst hm draft =>
      rw [hst, Stage.turn?, hm]
      exact draft.planned
  | diverted hst hm mock =>
      rw [hst, Stage.turn?, hm, mock.approach_eq]
      exact .kept nofun mock.unplanned
  | generated hst round =>
      rw [hst, round.approach_eq]
      exact .kept nofun round.unplanned
  | mocked hst mock =>
      rw [hst, mock.approach_eq]
      exact .kept nofun mock.unplanned
  | reworked hst upload regeneration =>
      rw [hst, regeneration.approach_eq]
      exact .kept nofun (upload.unplanned.append regeneration.unplanned)
  | regenerated hst regeneration =>
      rw [hst, regeneration.approach_eq]
      exact .kept nofun regeneration.unplanned

end Transcript

/-! ## Turns -/

/-- From `s` to `s'` there has been a turn, or none, and this is in the log. -/
structure Turned (turn? : Option Turn) (t : List LogEntry) (s s' : State) : Prop where
  counts : ∀ {past : List Turn}, s.stage.Counts past → s'.stage.Counts (turn?.toList ++ past)
  planned : Planned s.approach turn? t s'.approach

namespace Turned

variable {turn? : Option Turn} {t u v : List LogEntry} {s s' : State}

theorem refl (s : State) (h : Unplanned t) : Turned none t s s :=
  ⟨id, .kept nofun h⟩

theorem around (h : Turned turn? t s s') (hu : Unplanned u) (hv : Unplanned v) :
    Turned turn? (u ++ (t ++ v)) s s' :=
  ⟨h.counts, h.planned.around hu hv⟩

end Turned

namespace Transcript

variable {format : ArchiveFormat} {fs : FileSystem} {tokens : Tokens} {x x' : Session}
  {message : Option String}
  {t : List LogEntry} {files : List StagedFile}

theorem Forward.turned {res : Except Error (Option String)}
    (h : Forward format fs tokens x message t files x' res) :
    (∃ e, res = .error e ∧ Turned none t x.state x'.state) ∨
      ∃ content, res = .ok content ∧
        Turned (x.state.stage.turn? message) t x.state x'.state := by
  have progress : ∀ inProgress, Unplanned [.event (.progress x.tabId inProgress none)] :=
    fun _ => ⟨rfl, rfl⟩
  rcases h.outcome with ⟨token, e, _, rfl, rfl, _, _, interaction, rfl⟩ |
    ⟨_, outcome, _, rfl, rfl, interaction, rfl⟩
  · have kept : Turned none _ x.state { x.state with token } :=
      ⟨id, .kept nofun interaction.unplanned⟩
    exact .inl ⟨e, rfl, kept.around (progress true) (progress false)⟩
  · have turned : Turned (x.state.stage.turn? message) _ x.state outcome.next :=
      ⟨interaction.counts, interaction.planned⟩
    exact .inr ⟨outcome.content, rfl, turned.around (progress true) (progress false)⟩

theorem Acceptance.turned {res : Except Error Unit} (h : Acceptance x x' res) :
    Turned none [] x.state x'.state := by
  refine ⟨h.counts, ?_⟩
  rw [h.approach_eq]
  exact .kept nofun ⟨rfl, rfl⟩

/-- Where there is no conversation there is no plan that its start could change. -/
theorem Step.turned {m : Move} {res : Except Error Reply}
    (h : Step format fs tokens x m t files x' res)
    (hx : x.state.stage = .notStarted → x.state.approach = "") :
    Turned (m.turn? x res) t x.state x'.state := by
  cases h with
  | startedBefore | notStarted | notWritten | cancelled | edited | written | handled =>
      exact .refl _ ⟨rfl, rfl⟩
  | started _ hst =>
      refine ⟨fun hs => ?_, ?_⟩
      · rw [hst] at hs
        exact hs
      · rw [hx hst]
        exact .kept nofun ⟨rfl, rfl⟩
  | accepted acceptance => exact acceptance.turned
  | notAccepted acceptance => exact acceptance.turned
  | sent forward =>
      rcases forward.turned with ⟨e, rfl, h⟩ | ⟨content, rfl, h⟩
      · exact h
      · exact h
  | retried forward =>
      rcases forward.turned with ⟨e, rfl, h⟩ | ⟨content, rfl, h⟩
      · exact h
      · exact h
  | @generated x₁ _ u _ _ acceptance forward =>
      have opening : Unplanned [.event (.chatInputEnabled x₁.tabId false),
          .event (.updatePlaceholder x₁.tabId writingPlaceholder)] := ⟨rfl, rfl⟩
      have closing : Unplanned [.event (.chatInputEnabled x₁.tabId true),
          .event (.updatePlaceholder x₁.tabId feedbackPlaceholder)] := ⟨rfl, rfl⟩
      have after : ∀ {turn?}, Turned turn? u x₁.state x'.state → Turned turn? u x.state x'.state :=
        fun h => ⟨fun hs => h.counts (acceptance.counts hs), acceptance.approach_eq ▸ h.planned⟩
      rcases forward.turned with ⟨e, rfl, h⟩ | ⟨content, rfl, h⟩
      · exact (after h).around opening closing
      · rw [acceptance.turn?_eq] at h
        exact (after h).around opening closing

end Transcript

/-! ## Runs -/

/-- For each plan among what has happened there is one of the service in the log and one that the
user has been shown, and the last of these is the approach. -/
structure Recorded (past : List Turn) (log : List LogEntry) (approach : String) : Prop where
  plans : past.count .plan = (log.filterMap LogEntry.plan?).length
  shown : log.filterMap LogEntry.approach? = (log.filterMap LogEntry.plan?).map approachOfPlan
  last : approach = (log.filterMap LogEntry.approach?).head?.getD ""

theorem Recorded.planned {past : List Turn} {log t : List LogEntry} {approach new : String}
    {turn? : Option Turn} (h : Recorded past log approach) (hp : Planned approach turn? t new) :
    Recorded (turn?.toList ++ past) (t.reverse ++ log) new := by
  cases hp with
  | kept ht hu =>
      have hturn : turn?.toList.count .plan = 0 :=
        List.count_eq_zero.mpr fun hmem => ht (Option.mem_toList.mp hmem)
      have hplans : (t.reverse ++ log).filterMap LogEntry.plan? = log.filterMap LogEntry.plan? := by
        rw [List.filterMap_append, List.filterMap_reverse, hu.made]
        rfl
      have hshown : (t.reverse ++ log).filterMap LogEntry.approach? =
          log.filterMap LogEntry.approach? := by
        rw [List.filterMap_append, List.filterMap_reverse, hu.shown]
        rfl
      refine ⟨?_, ?_, ?_⟩
      · rw [List.count_append, hturn, Nat.zero_add, hplans]
        exact h.plans
      · rw [hshown, hplans]
        exact h.shown
      · rw [hshown]
        exact h.last
  | @replaced plan ht hmade htold =>
      have hplans : (t.reverse ++ log).filterMap LogEntry.plan? =
          plan :: log.filterMap LogEntry.plan? := by
        rw [List.filterMap_append, List.filterMap_reverse, hmade]
        rfl
      have hshown : (t.reverse ++ log).filterMap LogEntry.approach? =
          approachOfPlan plan :: log.filterMap LogEntry.approach? := by
        rw [List.filterMap_append, List.filterMap_reverse, htold]
        rfl
      refine ⟨?_, ?_, ?_⟩
      · rw [ht, hplans, List.length_cons, ← h.plans]
        exact List.count_cons_self
      · rw [hshown, hplans, h.shown, List.map_cons]
      · rw [hshown]
        rfl

/-- What has happened in a session, latest first, agrees with its log and its state. -/
structure History (past : List Turn) (r : Running σ) : Prop where
  recorded : Recorded past r.world.log r.session.state.approach
  counts : r.session.state.stage.Counts past

namespace History

variable {past : List Turn} {r : Running σ}

/-- Where there is no conversation there has been no plan. -/
theorem approach_eq_empty (h : History past r) (hs : r.session.state.stage = .notStarted) :
    r.session.state.approach = "" := by
  have hcounts := h.counts
  rw [hs] at hcounts
  obtain rfl : past = [] := hcounts
  have hplans : r.world.log.filterMap LogEntry.plan? = [] :=
    List.eq_nil_of_length_eq_zero h.recorded.plans.symm
  rw [h.recorded.last, h.recorded.shown, hplans]
  rfl

theorem perform (h : History past r) (env : Environment σ) (m : Move) :
    let r' := exec (m.perform env) r
    History ((m.turn? r.session r'.1).toList ++ past) r'.2 := by
  obtain ⟨t, files, x', res, w', hrun, step, hlog, -⟩ := perform_spec env m r.session r.world
  have turned := step.turned h.approach_eq_empty
  have recorded := h.recorded.planned turned.planned
  rw [← hlog] at recorded
  dsimp only
  rw [hrun]
  exact ⟨recorded, turned.counts h.counts⟩

theorem run {past : List Turn} {r : Running σ} (h : History past r) (env : Environment σ)
    (moves : List Move) : History (turns env r moves ++ past) (Session.run env r moves) := by
  induction moves generalizing past r with
  | nil => exact h
  | cons m moves ih =>
      rw [turns, List.append_assoc]
      exact ih (h.perform env m)

end History

/-- Each plan of the service is shown to the user once, and the last one is the approach. As far as
numbers of 32 bits go, a round of code has the number of times that code has been generated, and a
round of the plan the number of plans since files of the workspace stood in for code or else since
the conversation began, before which nothing has led to anything. -/
theorem run_history (env : Environment σ) (settings : Settings) (root : Path) (tabId : String)
    (outside : σ) (files : FileSystem) (moves : List Move) :
    let r₀ := Session.new settings root tabId outside files
    let r := run env r₀ moves
    let past := turns env r₀ moves
    let plans := r.world.log.filterMap LogEntry.plan?
    let shown := r.world.log.filterMap LogEntry.approach?
    shown = plans.map (fun plan =>
        Markup.sanitize ((plan.filter (!Text.isBlankText ·)).getD fallbackApproach)) ∧
      r.session.state.approach = shown.head?.getD "" ∧
      past.count .plan = plans.length ∧
      (∀ c n changes, r.session.state.stage = .reviewing c n changes →
        n.toNat = past.count .code % UInt32.size) ∧
      (∀ c n, r.session.state.stage = .revising c n →
        n.toNat = plansSinceDiversion past % UInt32.size) ∧
      (r.session.conversationId? = none → past = []) := by
  intro r₀ r past plans shown
  have start : History [] r₀ := ⟨⟨rfl, rfl, rfl⟩, rfl⟩
  have h : History past r := by
    have hrun := start.run env moves
    rwa [List.append_nil] at hrun
  have hcounts := h.counts
  refine ⟨?_, h.recorded.last, h.recorded.plans, ?_, ?_, ?_⟩
  · rw [← funext approachOfPlan_eq]
    exact h.recorded.shown
  · intro c n changes hs
    rw [hs] at hcounts
    rw [hcounts.1, UInt32.toNat_ofNat']
  · intro c n hs
    rw [hs] at hcounts
    rw [hcounts.1, UInt32.toNat_ofNat']
  · intro hid
    cases hs : r.session.state.stage with
    | notStarted =>
        rw [hs] at hcounts
        exact hcounts
    | _ => simp [conversationId?, Stage.context?, hs] at hid

theorem run_history_planned :
    let env := obliging (.ok "job") ⟨[], []⟩
    let r₀ := Session.new {} sampleRoot "tab" () sample
    let revised := [.preload "task", .send "message", .send "more"]
    let coded := [.preload "task", .send "message", .generateCode]
    (turns env r₀ revised).count .plan = 2 ∧
    ((∃ c, (run env r₀ revised).session.state.stage = .revising c 2) ∧
      2 = plansSinceDiversion (turns env r₀ revised) % UInt32.size) ∧
    ((∃ c changes, (run env r₀ coded).session.state.stage = .reviewing c 1 changes) ∧
      1 = (turns env r₀ coded).count .code % UInt32.size) ∧
    r₀.session.conversationId? = none ∧ turns env r₀ [] = [] := by
  intro env r₀ revised coded
  obtain ⟨-, -, hcount, -, hplans, -⟩ := run_history env {} sampleRoot "tab" () sample revised
  obtain ⟨-, -, -, hcode, -⟩ := run_history env {} sampleRoot "tab" () sample coded
  obtain ⟨-, -, -, -, -, hnone⟩ := run_history env {} sampleRoot "tab" () sample []
  have hplan : planned env = _ := planned_obliging
  have hrevised : run env r₀ revised = run env (planned env) [.send "more"] := rfl
  have hcoded : run env r₀ coded = run env (planned env) [.generateCode] := rfl
  have hrevising : ∃ c, (run env r₀ revised).session.state.stage = .revising c 2 := by
    rw [hrevised, hplan]
    exact ⟨_, rfl⟩
  have hreviewing : ∃ c changes,
      (run env r₀ coded).session.state.stage = .reviewing c 1 changes := by
    rw [hcoded, hplan]
    exact ⟨_, _, rfl⟩
  refine ⟨?_, ⟨hrevising, ?_⟩, ⟨hreviewing, ?_⟩, rfl, hnone rfl⟩
  · rw [hcount, hrevised, hplan]
    rfl
  · obtain ⟨c, hs⟩ := hrevising
    exact hplans c 2 hs
  · obtain ⟨c, changes, hs⟩ := hreviewing
    exact hcode c 1 changes hs

end Codewright.Session
