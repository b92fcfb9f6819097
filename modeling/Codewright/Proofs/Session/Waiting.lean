import Mathlib
import Codewright.Proofs.Session.Cancellation

/-!
# Waiting for a job

How long a job is waited for and what comes of it is told by the first round that ends the waiting.
Until then every round is the same: a question, the answer that the job still runs, and a pause. What
the world is like at the boundary of a round does not depend on how many rounds may follow.
-/

namespace Codewright.Service.JobStatus

theorem ofText_eq_complete {text : String} : ofText text = complete ↔ text = "Complete" := by
  unfold ofText
  split
  · simp [*]
  · simp only [*, iff_false]
    repeat' split
    all_goals nofun

theorem eq_of_ofText_unknown {text raw : String} (h : ofText text = unknown raw) : raw = text := by
  unfold ofText at h
  repeat' split at h
  all_goals cases h
  rfl

end Codewright.Service.JobStatus

namespace Codewright.Session

open Service (JobStatus)
open Staging (StagedFile)

variable {σ : Type}

/-! ## Rounds -/

/-- The world behind a call. -/
def World.called (env : Environment σ) (c : Service.Call) (w : World σ) : World σ :=
  let served := env.serve w.outside c
  { w with
    outside := served.outside
    tokens := served.cancelled.foldl Tokens.cancel w.tokens
    log := .call c served.result :: w.log }

/-- The world behind a pause. -/
def World.paused (env : Environment σ) (ms : Nat) (w : World σ) : World σ :=
  (exec (Action.wait env ms) w).2

namespace Job

variable (env : Environment σ) (pauseMs : Nat) (job : Job) (w : World σ)

/-- The question for the status of a job. -/
def question : Service.Call :=
  .getCodeGeneration job.conversationId job.id

/-- What the service answers to the question. -/
def response : Except Service.Error String :=
  (env.serve w.outside job.question).result

/-- Whether the job still runs by an answer. -/
def isPending : Except Service.Error String → Bool
  | .ok text => (JobStatus.ofText text).isPending
  | .error _ => false

/-- Whether the waiting ends with the round that begins in a world. -/
def endsAt : Bool :=
  w.tokens.isCancelled job.token || !isPending (job.response env w)

/-- The world behind a round in which the job still runs. -/
def nextRound : World σ :=
  (w.called env job.question).paused env pauseMs

/-- The world at the boundary before a round, if the job still runs in those before. -/
def boundary (k : Nat) : World σ :=
  (nextRound env pauseMs job)^[k] w

/-- The first of `n` rounds with which the waiting ends. -/
def firstEnd (n : Nat) : Option Nat :=
  (List.range n).find? fun k => job.endsAt env (job.boundary env pauseMs w k)

variable {env pauseMs job w}

theorem firstEnd_of_endsAt (h : job.endsAt env w = true) (n : Nat) :
    job.firstEnd env pauseMs w (n + 1) = some 0 := by
  rw [firstEnd, List.range_succ_eq_map, List.find?_cons_of_pos]
  exact h

theorem firstEnd_succ (h : job.endsAt env w = false) (n : Nat) :
    job.firstEnd env pauseMs w (n + 1) =
      (job.firstEnd env pauseMs (job.nextRound env pauseMs w) n).map (· + 1) := by
  rw [firstEnd, List.range_succ_eq_map, List.find?_cons_of_neg, List.find?_map]
  · rfl
  · simp [boundary, h]

theorem endsAt_of_firstEnd {n k : Nat} (h : job.firstEnd env pauseMs w n = some k) :
    job.endsAt env (job.boundary env pauseMs w k) = true :=
  List.find?_some (p := fun k => job.endsAt env (job.boundary env pauseMs w k)) h

theorem isPending_iff {text : String} : (JobStatus.ofText text).isPending = true ↔
    JobStatus.ofText text = .inProgress ∨ JobStatus.ofText text = .predictReady := by
  cases JobStatus.ofText text <;> simp [JobStatus.isPending]

theorem exec_question (env : Environment σ) (job : Job) (w : World σ) :
    exec (Action.call env (.getCodeGeneration job.conversationId job.id) (.serverSide .codeGen)) w =
      ((job.response env w).mapError (.serverSide .codeGen), w.called env job.question) :=
  exec_call ..

/-- Rounds that may follow do not matter for the one with which the waiting ends. -/
theorem exec_poll_of_endsAt (h : job.endsAt env w = true) (n : Nat) :
    exec (poll env pauseMs job (n + 1)) w = exec (poll env pauseMs job 1) w := by
  simp only [poll, exec_bind, exec_isCancelled]
  cases hc : w.tokens.isCancelled job.token with
  | true => rfl
  | false =>
      have hquestion := exec_question env job w
      rw [endsAt, hc, Bool.false_or] at h
      simp only [Bool.false_eq_true, ↓reduceIte, exec_bind, hquestion]
      cases hr : job.response env w with
      | error e => rfl
      | ok text =>
          simp only [Except.mapError]
          cases hs : JobStatus.ofText text with
          | inProgress | predictReady => simp [hr, isPending, hs, JobStatus.isPending] at h
          | failed | predictFailed | debateFailed | unknown | complete => rfl

theorem exec_poll_succ (h : job.endsAt env w = false) (n : Nat) :
    exec (poll env pauseMs job (n + 1)) w =
      exec (poll env pauseMs job n) (job.nextRound env pauseMs w) := by
  obtain ⟨hc, hp⟩ : w.tokens.isCancelled job.token = false ∧
      isPending (job.response env w) = true := by
    simpa [endsAt] using h
  have hquestion := exec_question env job w
  simp only [poll, exec_bind, exec_isCancelled, hc, Bool.false_eq_true, ↓reduceIte, hquestion]
  cases hr : job.response env w with
  | error e => simp [hr, isPending] at hp
  | ok text =>
      simp only [Except.mapError]
      rw [hr] at hp
      rcases isPending_iff.mp hp with hs | hs
      · rw [hs]
        rfl
      · rw [hs]
        rfl

theorem exec_poll (n : Nat) (w : World σ) :
    exec (poll env pauseMs job n) w =
      match job.firstEnd env pauseMs w n with
      | none => exec (poll env pauseMs job 0) (job.boundary env pauseMs w n)
      | some k => exec (poll env pauseMs job 1) (job.boundary env pauseMs w k) := by
  -- The boundaries are counted from the world behind the first round, as the remaining rounds are.
  induction n generalizing w with
  | zero => rfl
  | succ n ih =>
      cases h : job.endsAt env w with
      | true =>
          rw [firstEnd_of_endsAt h, exec_poll_of_endsAt h]
          rfl
      | false =>
          rw [firstEnd_succ h, exec_poll_succ h, ih]
          cases job.firstEnd env pauseMs (job.nextRound env pauseMs w) n with
          | none | some k => rfl

end Job

/-! ## What waiting takes -/

namespace LogEntry

/-- Whether an entry fetches the files of a job. -/
def exports : LogEntry → Bool
  | .call (.exportResult _) _ => true
  | _ => false

/-- The time that passes without anything being done. -/
def sleptMs : LogEntry → Nat
  | .waited ms => ms
  | _ => 0

end LogEntry

/-- The entries that are written while a job is waited for. -/
structure Takes (t : List LogEntry) (questions exports ms : Nat) : Prop where
  questions : t.countP LogEntry.asksStatus = questions
  exports : t.countP LogEntry.exports = exports
  ms : (t.map LogEntry.sleptMs).sum = ms

theorem Takes.append {t u : List LogEntry} {q e ms q' e' ms' : Nat} (h : Takes t q e ms)
    (h' : Takes u q' e' ms') : Takes (t ++ u) (q + q') (e + e') (ms + ms') where
  questions := by rw [List.countP_append, h.questions, h'.questions]
  exports := by rw [List.countP_append, h.exports, h'.exports]
  ms := by rw [List.map_append, List.sum_append, h.ms, h'.ms]

/-- What comes of waiting for a job, and what it takes. -/
structure Waiting where
  result : Except Error JobResult
  questions : Nat
  /-- How many times the job still ran. -/
  pending : Nat
  exports : Nat := 0
  /-- The files that are staged. -/
  files : List StagedFile := []

namespace Job

/-- The waiting that ends with the response to a question, which is asked in `w` after `k` others. -/
def conclude (env : Environment σ) (job : Job) (w : World σ) (k : Nat) : Waiting :=
  match job.response env w with
  | .error e => { result := .error (.serverSide .codeGen e), questions := k + 1, pending := k }
  | .ok text =>
    if text = "Complete" then
      let asked := w.called env job.question
      match (env.serve asked.outside (.exportResult job.conversationId)).result with
      | .error e =>
        { result := .error (.serverSide .codeGen e), questions := k + 1, pending := k, exports := 1 }
      | .ok archive =>
        let files := archive.files.map (StagedFile.ofGenerated job.uploadId)
        { result := .ok (.complete ⟨files, archive.deleted⟩)
          questions := k + 1
          pending := k
          exports := 1
          files }
    else if (JobStatus.ofText text).isFailure then
      { result := .error .codeGenFailed, questions := k + 1, pending := k }
    else
      { result := .error (.unknownCodeGenStatus text), questions := k + 1, pending := k }

/-- The waiting for a job in closed form. It ends with the first round before which it is cancelled or
in which the job is found not to run any more. -/
def waiting (env : Environment σ) (polling : Polling) (job : Job) (w : World σ) : Waiting :=
  let n := polling.maxIterations
  match job.firstEnd env polling.pauseMs w n with
  | none =>
    { result :=
        if (job.boundary env polling.pauseMs w n).tokens.isCancelled job.token then .ok .cancelled
        else .error .codeGenTimeout
      questions := n
      pending := n }
  | some k =>
    let w := job.boundary env polling.pauseMs w k
    if w.tokens.isCancelled job.token then
      { result := .ok .cancelled, questions := k, pending := k }
    else job.conclude env w k

variable {env : Environment σ} {pauseMs : Nat} {job : Job}

theorem follows_asked (env : Environment σ) (job : Job) (w : World σ) :
    w.Follows [.call job.question (job.response env w)] [] (w.called env job.question) :=
  ⟨rfl, rfl, rfl⟩

theorem takes_asked (env : Environment σ) (job : Job) (w : World σ) :
    Takes [.call job.question (job.response env w)] 1 0 0 :=
  ⟨rfl, rfl, rfl⟩

theorem follows_nextRound (env : Environment σ) (pauseMs : Nat) (job : Job) (w : World σ) :
    w.Follows [.call job.question (job.response env w), .waited pauseMs] []
      (job.nextRound env pauseMs w) :=
  ⟨rfl, rfl, rfl⟩

theorem follows_boundary (env : Environment σ) (pauseMs : Nat) (job : Job) (k : Nat)
    (w : World σ) :
    ∃ t, w.Follows t [] (job.boundary env pauseMs w k) ∧ Takes t k 0 (k * pauseMs) := by
  induction k generalizing w with
  | zero => exact ⟨[], .refl w, rfl, rfl, (Nat.zero_mul _).symm⟩
  | succ k ih =>
      obtain ⟨t, hfollows, htakes⟩ := ih (job.nextRound env pauseMs w)
      have hround : Takes [.call job.question (job.response env w), .waited pauseMs] 1 0 pauseMs :=
        ⟨rfl, rfl, by simp [LogEntry.sleptMs]⟩
      refine ⟨_, (follows_nextRound env pauseMs job w).trans hfollows, ?_⟩
      have h := hround.append htakes
      rwa [Nat.add_comm 1, Nat.zero_add, Nat.add_comm pauseMs, ← Nat.succ_mul] at h

theorem conclude_error {w : World σ} {e : Service.Error} (h : job.response env w = .error e)
    (k : Nat) : job.conclude env w k =
      { result := .error (.serverSide .codeGen e), questions := k + 1, pending := k } := by
  rw [conclude, h]

theorem conclude_of_ne {w : World σ} {text : String} (h : job.response env w = .ok text)
    (hs : JobStatus.ofText text ≠ .complete) (k : Nat) : job.conclude env w k =
      { result := .error (if (JobStatus.ofText text).isFailure then .codeGenFailed
          else .unknownCodeGenStatus text)
        questions := k + 1
        pending := k } := by
  rw [conclude, h]
  dsimp only
  rw [if_neg fun heq => hs (JobStatus.ofText_eq_complete.mpr heq)]
  split <;> rfl

/-- What a complete job leaves is fetched once, and staged if it arrives. -/
theorem collect_concludes {w : World σ} {text : String} (h : job.response env w = .ok text)
    (hs : JobStatus.ofText text = .complete) (k : Nat) :
    ∃ t, (w.called env job.question).Follows t (job.conclude env w k).files
        (exec (collect env job) (w.called env job.question)).2 ∧
      (exec (collect env job) (w.called env job.question)).1.map .complete =
        (job.conclude env w k).result ∧
      Takes t 0 (job.conclude env w k).exports 0 := by
  rw [conclude, h]
  dsimp only
  rw [if_pos (JobStatus.ofText_eq_complete.mp hs)]
  have hcall := exec_call env (.exportResult job.conversationId) (.serverSide .codeGen)
    (w.called env job.question)
  simp only [collect, exec_bind, hcall]
  let export? := Service.Call.exportResult job.conversationId
  cases (env.serve (w.called env job.question).outside export?).result with
  | error e => exact ⟨[.call export? (.error e)], ⟨rfl, rfl, rfl⟩, rfl, rfl, rfl, rfl⟩
  | ok archive => exact ⟨[.call export? (.ok archive)], ⟨rfl, rfl, rfl⟩, rfl, rfl, rfl, rfl⟩

theorem poll_concludes {w : World σ} (hc : w.tokens.isCancelled job.token = false)
    (hp : isPending (job.response env w) = false) (k : Nat) :
    ∃ t, w.Follows t (job.conclude env w k).files (exec (poll env pauseMs job 1) w).2 ∧
      (exec (poll env pauseMs job 1) w).1 = (job.conclude env w k).result ∧
      Takes t 1 (job.conclude env w k).exports 0 := by
  have hquestion := exec_question env job w
  have hasked := follows_asked env job w
  simp only [poll, exec_bind, exec_isCancelled, hc, Bool.false_eq_true, ↓reduceIte, hquestion]
  cases hr : job.response env w with
  | error e =>
      rw [conclude_error hr]
      exact ⟨_, hasked, rfl, takes_asked env job w⟩
  | ok text =>
      simp only [Except.mapError]
      cases hs : JobStatus.ofText text with
      | inProgress | predictReady => simp [hr, isPending, hs, JobStatus.isPending] at hp
      | failed | predictFailed | debateFailed =>
          rw [conclude_of_ne hr (by simp [hs]), hs]
          exact ⟨_, hasked, rfl, takes_asked env job w⟩
      | unknown raw =>
          rw [conclude_of_ne hr (by simp [hs]), hs, JobStatus.eq_of_ofText_unknown hs]
          exact ⟨_, hasked, rfl, takes_asked env job w⟩
      | complete =>
          obtain ⟨t, hcollect, hresult, htakes⟩ := collect_concludes hr hs k
          have hboth := (takes_asked env job w).append htakes
          rw [Nat.zero_add] at hboth
          simp only [exec_return]
          exact ⟨_, hasked.trans hcollect, hresult, hboth⟩

theorem questions_conclude (env : Environment σ) (job : Job) (w : World σ) (k : Nat) :
    (job.conclude env w k).questions = k + 1 ∧ (job.conclude env w k).pending = k := by
  unfold conclude
  dsimp only
  repeat' split
  all_goals exact ⟨rfl, rfl⟩

theorem exec_poll_zero (w : World σ) :
    exec (poll env pauseMs job 0) w =
      (if w.tokens.isCancelled job.token then .ok .cancelled else .error .codeGenTimeout, w) := by
  simp only [poll, exec_bind, exec_isCancelled]
  cases w.tokens.isCancelled job.token with
  | true | false => rfl

theorem exec_poll_cancelled {w : World σ} (hc : w.tokens.isCancelled job.token = true) (n : Nat) :
    exec (poll env pauseMs job (n + 1)) w = (.ok .cancelled, w) := by
  simp only [poll, exec_bind, exec_isCancelled, hc]
  rfl

/-- Waiting for a job comes to what the closed form says, for any answers of the service and whenever
the user cancels. -/
theorem await_closedForm (env : Environment σ) (polling : Polling) (job : Job) (w : World σ) :
    let done := job.waiting env polling w
    ∃ t, w.Follows t done.files (exec (job.await env polling) w).2 ∧
      (exec (job.await env polling) w).1 = done.result ∧
      Takes t done.questions done.exports
        (done.pending * min polling.intervalMs longestPauseMs) := by
  dsimp only
  rw [await, exec_poll, waiting]
  cases hfirst : job.firstEnd env polling.pauseMs w polling.maxIterations with
  | none =>
      obtain ⟨t, hfollows, htakes⟩ :=
        follows_boundary env polling.pauseMs job polling.maxIterations w
      dsimp only
      rw [exec_poll_zero]
      exact ⟨t, hfollows, rfl, htakes⟩
  | some k =>
      obtain ⟨t, hfollows, htakes⟩ := follows_boundary env polling.pauseMs job k w
      dsimp only
      cases hc : (job.boundary env polling.pauseMs w k).tokens.isCancelled job.token with
      | true =>
          rw [exec_poll_cancelled hc, if_pos rfl]
          exact ⟨t, hfollows, rfl, htakes⟩
      | false =>
          have hends := endsAt_of_firstEnd hfirst
          rw [endsAt, hc, Bool.false_or, Bool.not_eq_true'] at hends
          obtain ⟨u, hround, hresult, htakesLast⟩ := poll_concludes hc hends k
          obtain ⟨hquestions, hpending⟩ :=
            questions_conclude env job (job.boundary env polling.pauseMs w k) k
          have hboth := htakes.append htakesLast
          rw [Nat.zero_add, Nat.add_zero] at hboth
          rw [if_neg Bool.false_ne_true, hquestions, hpending]
          exact ⟨t ++ u, hfollows.trans hround, hresult, hboth⟩

end Job

/-- A service whose job still runs as often as the number says, and then leaves nothing. -/
def slow : Environment Nat where
  serve left c :=
    match c with
    | .getCodeGeneration _ _ =>
      { result := .ok (if left = 0 then "Complete" else "InProgress"), outside := left - 1 }
    | .exportResult _ => { result := .ok ⟨[], []⟩, outside := left }
    | _ => { result := .error ⟨.unknown, ""⟩, outside := left }
  wait left _ := ([], left)
  freshId left := ("fresh", left)
  format := Workspace.Zip.format

/-- An interval of a millisecond more than thirty years is cut short. -/
theorem interval_cut_short :
    let polling : Polling := ⟨946080000001, 5⟩
    let job : Job := ⟨"job", "conversation", "upload", ⟨0, []⟩⟩
    let w : World Nat := { outside := 2 }
    let r := exec (job.await slow polling) w
    (job.waiting slow polling w).pending = 2 ∧ r.1 = .ok (.complete {}) ∧
      r.2.log.countP LogEntry.asksStatus = 3 ∧
      (r.2.log.map LogEntry.sleptMs).sum = 1892160000000 ∧
      2 * polling.intervalMs = 1892160000002 :=
  ⟨rfl, rfl, rfl, rfl, rfl⟩

end Codewright.Session
