import Mathlib.Data.List.Infix
import Codewright.Proofs.Session.History

/-!
# What reaches the service

A state that wants a message refuses a blank one before it does anything. Where a plan can be
revised, a message with the sentinel in it is kept from the service, whatever there is to stand in
for generated code. So it depends on the stage and on the message alone whether the service can be
called.
-/

namespace Codewright.Session

open Staging (StagedFile)
open Transcript
open Workspace (ArchiveFormat FileSystem)

variable {σ : Type} {message : Option String}

/-! ## Messages -/

/-- Whether a stage wants a message. -/
def Stage.wantsMessage : Stage → Bool
  | awaitingTask _ | drafting _ _ | revising _ _ | reviewing _ _ _ | regenerating _ _ _ => true
  | notStarted | generating _ _ _ | mocking _ _ _ => false

/-- There is no message, or nothing but white space in it. -/
def Blank (message : Option String) : Prop :=
  ∀ m, message = some m → Text.isBlankText m = true

theorem userMessage_of_blank (h : Blank message) :
    userMessage message = .error .userMessageNotFound := by
  cases message with
  | none => rfl
  | some m => rw [userMessage, if_pos (h m rfl)]

theorem occursIn_iff (needle text : List Char) :
    Text.occursIn needle text = true ↔ needle <:+: text := by
  induction text with
  | nil => rw [Text.occursIn, List.isEmpty_iff, List.infix_nil]
  | cons c rest ih =>
      rw [Text.occursIn, Bool.or_eq_true, List.isPrefixOf_iff_prefix, ih, List.infix_cons_iff]

theorem wantsMock_iff :
    State.wantsMock message = true ↔
      ∃ before after, message = some (before ++ mockSentinel ++ after) := by
  cases message with
  | none => simp [State.wantsMock]
  | some m =>
      rw [State.wantsMock, Option.any_some, occursIn_iff]
      constructor
      · rintro ⟨before, after, h⟩
        refine ⟨String.ofList before, String.ofList after, congrArg some ?_⟩
        rw [← String.toList_inj, ← h]
        simp
      · rintro ⟨before, after, h⟩
        rw [Option.some.inj h, String.toList_append, String.toList_append]
        exact List.infix_append ..

/-- The sentinel is not blank, and nothing that it stands in is. -/
theorem wantsMock_of_blank (h : Blank message) : State.wantsMock message = false := by
  refine Bool.eq_false_iff.mpr fun hm => ?_
  obtain ⟨before, after, rfl⟩ := wantsMock_iff.mp hm
  have hblank := h _ rfl
  rw [Text.isBlankText, String.toList_append, String.toList_append, List.all_append,
    List.all_append, Bool.and_eq_true, Bool.and_eq_true] at hblank
  exact absurd hblank.1.2 (by decide)

/-- Where a message is wanted, a blank one is refused, and everything stays as it is. -/
theorem interact_blank (env : Environment σ) {s : State} (hs : s.stage.wantsMessage = true)
    (h : Blank message) (w : World σ) :
    exec (State.interact env message) ⟨s, w⟩ = (.error .userMessageNotFound, ⟨s, w⟩) := by
  have hm := userMessage_of_blank h
  have hmock := wantsMock_of_blank h
  cases hst : s.stage with
  | awaitingTask => simp [State.interact, State.begin, hst, hm]
  | drafting => simp [State.interact, State.draft, hst, hm]
  | revising => simp [State.interact, State.draft, hst, hm, hmock]
  | reviewing => simp [State.interact, State.rework, hst, hm]
  | regenerating => simp [State.interact, State.regenerate, hst, hm]
  | notStarted | generating | mocking =>
      rw [hst] at hs
      cases hs

/-! ## Calls -/

/-- Whether a stage turns to the service with a message that it has not refused. -/
def Stage.turnsToService (message : Option String) : Stage → Bool
  | notStarted | mocking _ _ _ => false
  | revising _ _ => !State.wantsMock message
  | awaitingTask _ | drafting _ _ | generating _ _ _ | reviewing _ _ _ | regenerating _ _ _ => true

namespace Transcript

variable {c : Context} {format : ArchiveFormat} {fs : FileSystem} {s s' : State} {t : List LogEntry}
  {files : List StagedFile} {res : Except Error Outcome}

theorem Mock.uncalled {uploadId : String} {outcome : Outcome}
    (h : Mock fs s c uploadId t files s' outcome) : t.filterMap LogEntry.call? = [] := by
  cases h with
  | unreadable | shown => rfl

theorem Interaction.uncalled (h : Interaction format fs s message t files s' res)
    (hs : s.stage.turnsToService message = false) : t.filterMap LogEntry.call? = [] := by
  match h with
  | .tooEarly _ => rfl
  | .diverted _ _ mock | .mocked _ mock => exact mock.uncalled
  | .revised hst hm _ =>
      rw [hst, Stage.turnsToService, hm] at hs
      cases hs
  | .noTask hst _ | .noUpload hst _ _ | .begun hst _ _ | .drafted hst _ | .generated hst _
  | .noFeedback hst _ | .noReupload hst _ _ | .reworked hst _ _ | .regenerated hst _ =>
      rw [hst] at hs
      cases hs

end Transcript

/-- Where a message is wanted, a blank one is refused at once. With the sentinel in the message, a
state with a plan hands over to one that wants another plan in the same context, and calls nothing.
All in all, the service is called only to generate code for an accepted plan or for a message that
is wanted, not blank, and not kept from it by the sentinel. -/
theorem interact_routes (env : Environment σ) (message : Option String) (s : State)
    (w : World σ) :
    let r := exec (State.interact env message) ⟨s, w⟩
    (s.stage.wantsMessage = true → Blank message →
        r = (.error .userMessageNotFound, ⟨s, w⟩)) ∧
      ∃ t : List LogEntry, r.2.world.log = t.reverse ++ w.log ∧
        (∀ c n before after, s.stage = .revising c n →
          message = some (before ++ mockSentinel ++ after) →
          t.filterMap LogEntry.call? = [] ∧
            ∃ outcome : Outcome, r.1 = .ok outcome ∧ outcome.next.stage = .drafting c 0 ∧
              outcome.next.approach = s.approach) ∧
        (t.filterMap LogEntry.call? ≠ [] →
          (∃ c n changes, s.stage = .generating c n changes) ∨
            s.stage.wantsMessage = true ∧ ¬Blank message ∧
              ¬((∃ c n, s.stage = .revising c n) ∧
                ∃ before after, message = some (before ++ mockSentinel ++ after))) := by
  intro r
  obtain ⟨t, files, s', res, w', hrun, interaction, follows⟩ := interact_spec env message s w
  have hr : r = (res, ⟨s', w'⟩) := hrun
  refine ⟨fun hs h => interact_blank env hs h w, t, by rw [hr]; exact follows.log, ?_, ?_⟩
  · intro c n before after hs hm
    obtain ⟨_, _, _, outcome, rfl, mock⟩ :=
      interaction.mock hs (wantsMock_iff.mpr ⟨before, after, hm⟩)
    exact ⟨mock.uncalled, outcome, by rw [hr], mock.next.1, mock.approach_eq⟩
  · intro hcalls
    have hturns : s.stage.turnsToService message = true :=
      eq_true_of_ne_false fun hs => hcalls (interaction.uncalled hs)
    have hblank : s.stage.wantsMessage = true → ¬Blank message := by
      intro hs h
      have hlog := follows.log
      obtain ⟨-, hw⟩ := Prod.mk.inj (hrun.symm.trans (interact_blank env hs h w))
      rw [(Acting.mk.inj hw).2] at hlog
      obtain rfl : t = [] := by simpa using hlog
      exact hcalls rfl
    cases hst : s.stage with
    | notStarted | mocking =>
        rw [hst] at hturns
        cases hturns
    | generating c n changes => exact .inl ⟨c, n, changes, rfl⟩
    | revising c n =>
        rw [hst] at hturns hblank
        refine .inr ⟨rfl, hblank rfl, fun h => ?_⟩
        rw [Stage.turnsToService, wantsMock_iff.mpr h.2] at hturns
        cases hturns
    | awaitingTask | drafting | reviewing | regenerating =>
        rw [hst] at hblank
        exact .inr ⟨rfl, hblank rfl, by rintro ⟨⟨_, _, h⟩, -⟩; cases h⟩

theorem interact_routes_planned :
    let env := obliging (.ok "job") ⟨[], []⟩
    let r := planned env
    let handled message := exec (State.interact env message) ⟨r.session.state, r.world⟩
    (r.session.state.stage.wantsMessage = true ∧ Blank (some " \t") ∧
        (handled (some " \t")).1 = .error .userMessageNotFound) ∧
      (∃ outcome : Outcome, (handled (some "try MOCK CODE now")).1 = .ok outcome ∧
        ∃ c, r.session.state.stage = .revising c 1 ∧ outcome.next.stage = .drafting c 0) ∧
      ∃ t : List LogEntry, (handled (some "more")).2.world.log = t.reverse ++ r.world.log ∧
        t.filterMap LogEntry.call? ≠ [] ∧ ¬Blank (some "more") := by
  intro env r handled
  have hblank : Blank (some " \t") := by
    rintro m ⟨⟩
    decide
  have hr : r = _ := planned_obliging
  have hs : ∃ c, r.session.state.stage = .revising c 1 := by
    rw [hr]
    exact ⟨_, rfl⟩
  obtain ⟨c, hs⟩ := hs
  have hwants : r.session.state.stage.wantsMessage = true := by rw [hs, Stage.wantsMessage]
  refine ⟨⟨hwants, hblank, ?_⟩, ?_, ?_⟩
  · exact congrArg Prod.fst
      ((interact_routes env (some " \t") r.session.state r.world).1 hwants hblank)
  · obtain ⟨t, -, hmock, -⟩ :=
      (interact_routes env (some "try MOCK CODE now") r.session.state r.world).2
    obtain ⟨-, outcome, hok, hnext, -⟩ := hmock c 1 "try " " now" hs (by decide)
    exact ⟨outcome, hok, c, hs, hnext⟩
  · obtain ⟨t, hlog, -, hcalls⟩ := (interact_routes env (some "more") r.session.state r.world).2
    have hentries : (handled (some "more")).2.world.log =
        [planShown "tab" (approachOfPlan (some "plan")),
          .call (.generatePlan "conversation" "place" "more") (.ok (some "plan"))] ++
          r.world.log := by
      simp only [handled, hr]
      rfl
    have ht := List.append_cancel_right (hlog.symm.trans hentries)
    have hcalled : t.filterMap LogEntry.call? ≠ [] := by
      rw [List.reverse_eq_iff.mp ht]
      exact List.cons_ne_nil _ _
    rcases hcalls hcalled with ⟨_, _, _, hgenerating⟩ | ⟨-, hwanted, -⟩
    · cases hs.symm.trans hgenerating
    · exact ⟨t, hlog, hcalled, hwanted⟩

end Codewright.Session
