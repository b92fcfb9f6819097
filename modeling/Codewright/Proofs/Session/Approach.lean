import Codewright.Proofs.Markup.Tags
import Codewright.Proofs.Session.History
import Codewright.Proofs.Session.PlainText

/-!
# The approach that is shown

Whenever the service answers with a plan, the user is shown an approach, which the next state holds.
If there is no plan or a blank one, a text stands in its place. The approach is blank only if the
plan is not, but holds nothing besides markup and white space.
-/

namespace Codewright.Session

open Staging (StagedFile)
open Text (isBlank isBlankText)
open Transcript
open Workspace (ArchiveFormat FileSystem)

variable {σ : Type}

/-! ## Blank approaches -/

theorem fallbackApproach_shown :
    Markup.sanitize fallbackApproach = fallbackApproach ∧ isBlankText fallbackApproach = false :=
  ⟨Markup.sanitize_of_plain (by decide), by decide⟩

/-- Without a plan, or with a blank one, the fallback is shown as it is. -/
theorem approachOfPlan_of_blank {plan : Option String}
    (h : ∀ p, plan = some p → isBlankText p = true) :
    approachOfPlan plan = fallbackApproach := by
  have hnone : plan.filter (!isBlankText ·) = none := by
    cases plan with
    | none => rfl
    | some p => simp [h p rfl]
  rw [approachOfPlan_eq, hnone]
  exact fallbackApproach_shown.1

/-- A plan that is not blank leaves nothing to show if it holds markup and white space only. -/
theorem isBlankText_approachOfPlan {plan : Option String} :
    isBlankText (approachOfPlan plan) = true ↔
      ∃ p, plan = some p ∧ isBlankText p = false ∧
        (Markup.strip p.toList).all isBlank = true := by
  constructor
  · intro h
    by_cases hblank : ∀ p, plan = some p → isBlankText p = true
    · rw [approachOfPlan_of_blank hblank, fallbackApproach_shown.2] at h
      cases h
    · obtain ⟨p, hplan, hp⟩ := by simpa using hblank
      subst hplan
      rw [approachOfPlan, hp, if_neg Bool.false_ne_true, Markup.isBlankText_sanitize] at h
      exact ⟨p, rfl, hp, h⟩
  · rintro ⟨p, rfl, hp, hstrip⟩
    rw [approachOfPlan, hp, if_neg Bool.false_ne_true, Markup.isBlankText_sanitize]
    exact hstrip

/-! ## Interactions -/

namespace Transcript

variable {c : Context} {format : ArchiveFormat} {fs : FileSystem} {s s' : State}
  {iteration : UInt32}
  {message : Option String} {t : List LogEntry} {files : List StagedFile}
  {outcome : Outcome} {res : Except Error Outcome} {plan : Option String}

/-- What an interaction ends with that has been answered with a plan. -/
structure Shows (plan : Option String) (t : List LogEntry) (outcome : Outcome) : Prop where
  stage : ∃ c n, outcome.next.stage = .revising c n
  approach : outcome.next.approach = approachOfPlan plan
  content : outcome.content = some (approachOfPlan plan ++ "\n")
  told : t.filterMap LogEntry.approach? = [approachOfPlan plan]

theorem Shows.behind {u : List LogEntry} (h : Shows plan t outcome) (hu : Unplanned u) :
    Shows plan (u ++ t) outcome :=
  { h with told := by rw [List.filterMap_append, hu.shown, h.told]; rfl }

theorem Draft.shows (h : Draft s c iteration message t s' res)
    (hplan : plan ∈ t.filterMap LogEntry.plan?) :
    ∃ outcome, res = .ok outcome ∧ Shows plan t outcome := by
  cases h with
  | noMessage _ => cases hplan
  | failed _ failure =>
      rw [failure.unplanned.made] at hplan
      cases hplan
  | done _ _ answered =>
      cases answered with
      | done _ =>
          obtain rfl := List.mem_singleton.mp hplan
          exact ⟨_, rfl, ⟨_, _, rfl⟩, rfl, rfl, rfl⟩

/-- An interaction that is answered with a plan succeeds and shows what comes of the plan. -/
theorem Interaction.shows (h : Interaction format fs s message t files s' res)
    (hplan : plan ∈ t.filterMap LogEntry.plan?) :
    ∃ outcome, res = .ok outcome ∧ Shows plan t outcome := by
  have none : ∀ {u : List LogEntry}, Unplanned u → plan ∉ u.filterMap LogEntry.plan? := by
    intro u hu
    rw [hu.made]
    exact List.not_mem_nil
  match h with
  | .tooEarly _ | .noTask _ _ | .noFeedback _ _ => cases hplan
  | .noUpload _ _ upload | .noReupload _ _ upload => exact absurd hplan (none upload.unplanned)
  | .begun _ upload draft =>
      rw [List.filterMap_append, upload.unplanned.made, List.nil_append] at hplan
      obtain ⟨outcome, hres, hshows⟩ := draft.shows hplan
      exact ⟨outcome, hres, hshows.behind upload.unplanned⟩
  | .drafted _ draft | .revised _ _ draft => exact draft.shows hplan
  | .diverted _ _ mock | .mocked _ mock => exact absurd hplan (none mock.unplanned)
  | .generated _ round => exact absurd hplan (none round.unplanned)
  | .reworked _ upload regeneration =>
      exact absurd hplan (none (upload.unplanned.append regeneration.unplanned))
  | .regenerated _ regeneration => exact absurd hplan (none regeneration.unplanned)

end Transcript

/-- Whenever the service answers a request for a plan, the next state holds an approach, which the
user is shown. It is blank only if the plan is not, but leaves nothing without its markup. -/
theorem approach_shown (env : Environment σ) (message : Option String) (s : State) (w : World σ) :
    let r := exec (State.interact env message) ⟨s, w⟩
    ∃ t : List LogEntry, r.2.world.log = t.reverse ++ w.log ∧
      ∀ plan ∈ t.filterMap LogEntry.plan?, ∃ outcome : Outcome,
        r.1 = .ok outcome ∧ (∃ c n, outcome.next.stage = .revising c n) ∧
        outcome.content = some (outcome.next.approach ++ "\n") ∧
        t.filterMap LogEntry.approach? = [outcome.next.approach] ∧
        (isBlankText outcome.next.approach = true ↔
          ∃ p, plan = some p ∧ isBlankText p = false ∧
            (Markup.strip p.toList).all isBlank = true) ∧
        ((∀ p, plan = some p → isBlankText p = true) →
          outcome.next.approach = fallbackApproach) := by
  intro r
  obtain ⟨t, files, s', res, w', hrun, interaction, follows⟩ := interact_spec env message s w
  have hr : r = (res, ⟨s', w'⟩) := hrun
  rw [hr]
  refine ⟨t, follows.log, fun plan hplan => ?_⟩
  obtain ⟨outcome, rfl, hshows⟩ := interaction.shows hplan
  refine ⟨outcome, rfl, hshows.stage, ?_, ?_, ?_, ?_⟩
  · rw [hshows.content, hshows.approach]
  · rw [hshows.told, hshows.approach]
  · rw [hshows.approach]
    exact isBlankText_approachOfPlan
  · rw [hshows.approach]
    exact approachOfPlan_of_blank

theorem approach_shown_bold :
    let env := planning "<b>Add</b> x if a < b"
    let r := planned env
    ∃ t : List LogEntry, some "<b>Add</b> x if a < b" ∈ t.filterMap LogEntry.plan? ∧
      ∃ outcome,
        (exec (State.interact env (some "more")) ⟨r.session.state, r.world⟩).1 = .ok outcome ∧
        isBlankText outcome.next.approach = false := by
  have hleft : (Markup.strip "<b>Add</b> x if a < b".toList).all isBlank = false := by
    decide +kernel
  intro env r
  obtain ⟨t, hlog, h⟩ := approach_shown env (some "more") r.session.state r.world
  have hentries :
      (exec (State.interact env (some "more")) ⟨r.session.state, r.world⟩).2.world.log =
        [planShown "tab" (approachOfPlan (some "<b>Add</b> x if a < b")),
          .call (.generatePlan "conversation" "place" "more")
            (.ok (some "<b>Add</b> x if a < b"))] ++ r.world.log := by
    have hr : r = _ := planned_obliging
    rw [hr]
    rfl
  have ht := List.append_cancel_right (hlog.symm.trans hentries)
  have hplan : some "<b>Add</b> x if a < b" ∈ t.filterMap LogEntry.plan? := by
    rw [List.reverse_eq_iff.mp ht]
    exact List.mem_singleton_self _
  obtain ⟨outcome, hok, -, -, -, hblank, -⟩ := h _ hplan
  refine ⟨t, hplan, outcome, hok, Bool.eq_false_iff.mpr fun hb => ?_⟩
  obtain ⟨p, hp, -, hstrip⟩ := hblank.mp hb
  obtain rfl := Option.some.inj hp
  cases hleft.symm.trans hstrip

/-- A plan of tags alone: the user is shown nothing, not the text for a plan that is missing. -/
theorem approach_blank :
    let r := planned (planning "<b></b>")
    some "<b></b>" ∈ r.world.log.filterMap LogEntry.plan? ∧ r.session.state.approach = "" ∧
      r.world.log.filterMap LogEntry.approach? = [""] ∧ isBlankText "" = true := by
  intro r
  have hempty : approachOfPlan (some "<b></b>") = "" := by decide +kernel
  have hr : r = _ := planned_obliging
  rw [hempty] at hr
  rw [hr]
  exact ⟨List.mem_singleton_self _, rfl, rfl, rfl⟩

end Codewright.Session
