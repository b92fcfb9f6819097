import Mathlib.Data.List.Induction
import Mathlib.Data.List.Infix
import Codewright.Proofs.Session.Entries
import Codewright.Proofs.Session.Reachable
import Codewright.Proofs.Session.Snapshot

/-!
# The retry budget

Every reported error that the user can do nothing about uses up one retry, and a failure of the
service that repeating does not help with uses up all of them. The failed transfer of an upload is
an error that the user can do something about, whatever its cause, and uses up none.
-/

namespace Codewright.Session

open Staging (StagedFile)
open Transcript
open Workspace (ArchiveFormat FileSystem Path)

variable {σ : Type}

/-- The failure of the service behind an error. -/
def Error.failure? : Error → Option Service.Error
  | .uploadCode cause | .serverSide _ cause => some cause
  | _ => none

/-- Whether repeating the call behind an error does not help. -/
def Error.isPermanent (e : Error) : Bool :=
  e.failure?.any fun cause => !cause.kind.isRetryable

/-- The budget after some errors: nothing is left after a permanent one that is not meant for the
user, and else each one that is not meant for the user has used up a retry. -/
def budgetAfter (retries : Nat) (errors : List Error) : Nat :=
  if errors.any fun e => e.isPermanent && !e.isUserFacing then 0
  else retries - errors.countP (!·.isUserFacing)

/-- Only a permanent failure makes it senseless to try again. -/
theorem canRetry_eq {e : Error} (h : e.isUserFacing = false) : e.canRetry = !e.isPermanent := by
  cases e with
  | serverSide _ cause => exact (Bool.not_not _).symm
  | uploadCode => cases h
  | _ => rfl

theorem retriesAfter_le (retries : Nat) (e : Error) : retriesAfter retries e ≤ retries := by
  unfold retriesAfter
  split
  · exact Nat.le_refl _
  · split
    · exact Nat.sub_le ..
    · exact Nat.zero_le _

/-- Errors use the budget up one after the other. -/
theorem budgetAfter_concat (retries : Nat) (errors : List Error) (e : Error) :
    budgetAfter retries (errors ++ [e]) = retriesAfter (budgetAfter retries errors) e := by
  simp only [budgetAfter, retriesAfter, List.any_append, List.any_cons, List.any_nil,
    Bool.or_false, List.countP_append, List.countP_singleton]
  generalize errors.any (fun e => e.isPermanent && !e.isUserFacing) = spent
  cases hu : e.isUserFacing with
  | true => simp
  | false =>
      rw [canRetry_eq hu]
      cases e.isPermanent with
      | true => simp
      | false =>
          -- What has been used up before stays used up.
          cases spent with
          | true => simp
          | false => simp [Nat.sub_sub]

/-! ## Moves -/

/-- The error that a move reports. -/
def Move.reported? : Move → Option Error
  | .handleError e => some e
  | _ => none

/-- The budget that the user is told about with an error. -/
def LogEntry.budget? : LogEntry → Option Nat
  | .event (.errorMessage _ _ retries _) => some retries
  | _ => none

namespace Transcript

variable {format : ArchiveFormat} {fs : FileSystem} {tokens : Tokens} {x x' : Session}
  {message : Option String}
  {t : List LogEntry} {files : List StagedFile}

theorem Forward.budget {res : Except Error (Option String)}
    (h : Forward format fs tokens x message t files x' res) :
    x'.retries = x.retries ∧ t.filterMap LogEntry.budget? = [] := by
  refine ⟨?_, h.filterMap_eq_nil ?_ fun _ _ _ => rfl⟩
  · rcases h.outcome with ⟨_, _, _, rfl, _⟩ | ⟨_, _, _, rfl, _⟩ <;> rfl
  · intro e he
    match e with
    | .call _ _ | .waited _ | .event (.answer _) | .event (.codeResult _ _ _ _) => rfl
    | .event (.errorMessage _ _ _ _) => cases he
    | .event (.progress _ _ _) | .event (.updatePlaceholder _ _)
    | .event (.chatInputEnabled _ _) => rfl

theorem Acceptance.retries_eq {res : Except Error Unit} (h : Acceptance x x' res) :
    x'.retries = x.retries := by
  cases h with
  | before | now | noUpload | tooEarly | noPlan => rfl

/-- The budget changes when an error is reported, which the user is told about, and only then. -/
theorem Step.budget {m : Move} {res : Except Error Reply}
    (h : Step format fs tokens x m t files x' res) :
    match m.reported? with
    | some e =>
      x'.retries = retriesAfter x.retries e ∧ t.filterMap LogEntry.budget? = [x'.retries]
    | none => x'.retries = x.retries ∧ t.filterMap LogEntry.budget? = [] := by
  cases h with
  | startedBefore | notStarted | started | notWritten | written | cancelled | edited =>
      exact ⟨rfl, rfl⟩
  | handled => exact ⟨rfl, rfl⟩
  | accepted acceptance => exact ⟨acceptance.retries_eq, rfl⟩
  | notAccepted acceptance => exact ⟨acceptance.retries_eq, rfl⟩
  | sent forward => exact forward.budget
  | retried forward => exact forward.budget
  | @generated x₁ _ u _ _ acceptance forward =>
      obtain ⟨hretries, hlog⟩ := forward.budget
      refine ⟨hretries.trans acceptance.retries_eq, ?_⟩
      change (u ++ _).filterMap LogEntry.budget? = []
      rw [List.filterMap_append, hlog]
      rfl

end Transcript

theorem retries_perform_le (env : Environment σ) (m : Move) (r : Running σ) :
    (exec (m.perform env) r).2.session.retries ≤ r.session.retries := by
  obtain ⟨t, files, x', res, w', hrun, step, -⟩ := perform_spec env m r.session r.world
  rw [hrun]
  have hbudget := step.budget
  split at hbudget
  · rw [hbudget.1]
    exact retriesAfter_le ..
  · exact Nat.le_of_eq hbudget.1

/-! ## Runs -/

/-- Of a budget of `retries`, what these errors have left is left, and with each of them the user
has been told what was left. -/
structure Spent (retries : Nat) (errors : List Error) (r : Running σ) : Prop where
  left : r.session.retries = budgetAfter retries errors
  told : r.world.log.reverse.filterMap LogEntry.budget? =
    errors.inits.tail.map (budgetAfter retries)

namespace Spent

variable {retries : Nat} {errors : List Error} {r r' : Running σ} {t : List LogEntry}

theorem unchanged (h : Spent retries errors r) (hr : r'.session.retries = r.session.retries)
    (hlog : r'.world.log = t.reverse ++ r.world.log) (ht : t.filterMap LogEntry.budget? = []) :
    Spent retries errors r' where
  left := hr.trans h.left
  told := by
    rw [hlog, List.reverse_append, List.reverse_reverse, List.filterMap_append, ht,
      List.append_nil, h.told]

theorem reported (h : Spent retries errors r) {e : Error}
    (hr : r'.session.retries = retriesAfter r.session.retries e)
    (hlog : r'.world.log = t.reverse ++ r.world.log)
    (ht : t.filterMap LogEntry.budget? = [r'.session.retries]) :
    Spent retries (errors ++ [e]) r' := by
  have hleft : r'.session.retries = budgetAfter retries (errors ++ [e]) := by
    rw [hr, h.left, budgetAfter_concat]
  have hinits : (errors ++ [e]).inits.tail = errors.inits.tail ++ [errors ++ [e]] := by
    rw [List.inits_append]
    cases errors <;> rfl
  refine ⟨hleft, ?_⟩
  rw [hlog, List.reverse_append, List.reverse_reverse, List.filterMap_append, ht, h.told, hinits,
    List.map_append, hleft]
  rfl

theorem perform (env : Environment σ) (m : Move) (h : Spent retries errors r) :
    Spent retries (errors ++ m.reported?.toList) (exec (m.perform env) r).2 := by
  obtain ⟨t, files, x', res, w', hrun, step, hlog, -⟩ := perform_spec env m r.session r.world
  rw [hrun]
  have hbudget := step.budget
  cases hm : m.reported? with
  | some e =>
      rw [hm] at hbudget
      exact h.reported hbudget.1 hlog hbudget.2
  | none =>
      rw [hm] at hbudget
      rw [Option.toList_none, List.append_nil]
      exact h.unchanged hbudget.1 hlog hbudget.2

theorem run (env : Environment σ) (settings : Settings) (root : Path) (tabId : String)
    (outside : σ) (files : FileSystem) (moves : List Move) :
    Spent settings.retries (moves.filterMap Move.reported?)
      (Session.run env (Session.new settings root tabId outside files) moves) := by
  induction moves using List.reverseRecOn with
  | nil => exact ⟨rfl, rfl⟩
  | append_singleton moves m ih =>
      rw [run_concat, List.filterMap_append]
      have hm : [m].filterMap Move.reported? = m.reported?.toList := by
        cases h : m.reported? <;> simp [h]
      rw [hm]
      exact ih.perform env m

end Spent

/-- Whatever else is done in between, the budget is what the reported errors have left of it, and
never becomes larger. With each error the user is told what was left when it had been counted. -/
theorem run_budget (env : Environment σ) (settings : Settings) (root : Path) (tabId : String)
    (outside : σ) (files : FileSystem) (moves : List Move) :
    let r := run env (Session.new settings root tabId outside files) moves
    let errors := moves.filterMap Move.reported?
    r.session.retries = budgetAfter settings.retries errors ∧
      (∀ more, (run env r more).session.retries ≤ r.session.retries) ∧
      r.world.log.reverse.filterMap LogEntry.budget? =
        errors.inits.tail.map (budgetAfter settings.retries) := by
  intro r errors
  have hspent : Spent settings.retries errors r := .run env settings root tabId outside files moves
  have hle : ∀ more, (run env r more).session.retries ≤ r.session.retries := fun more =>
    run_induction (P := fun r' => r'.session.retries ≤ r.session.retries) env (Nat.le_refl _)
      (fun r' m h => Nat.le_trans (retries_perform_le env m r') h) more
  exact ⟨hspent.left, hle, hspent.told⟩

/-- A service that does not let the workspace be transferred. -/
def forbidding : Environment Unit where
  serve outside c :=
    match c with
    | .upload _ _ _ _ => { result := .error ⟨.auth, "HTTP 403"⟩, outside }
    | c => (obliging (.ok "job") ⟨[], []⟩).serve outside c
  wait _ _ := ([], ())
  freshId _ := ("fresh", ())
  format := Workspace.Zip.format

/-- A permanent failure does not always use up the budget. -/
theorem forbidden_transfer_costs_nothing :
    let r := run forbidding (Session.new {} sampleRoot "tab" () sample) [.preload "task"]
    let sent := exec (Move.perform forbidding (.send "message")) r
    let e := Error.uploadCode ⟨.auth, "HTTP 403"⟩
    sent.1 = .error e ∧ e.isPermanent = true ∧
      (exec (handleError e) sent.2).2.session.retries = 3 := by
  intro r sent e
  have hsent : sent = _ :=
    perform_send_of_snapshot _ (r := r) (c := sampleContext) rfl take_sample "message"
  rw [hsent]
  exact ⟨by rfl, by rfl, by rfl⟩

end Codewright.Session
