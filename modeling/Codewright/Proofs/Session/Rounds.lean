import Codewright.Proofs.Session.History

/-!
# Rounds

What a session is like between any two moves. Its number of rounds is at least one where the user
can ask for another round, but the number that is kept for it starts again from zero when 32 bits
are used up.
-/

namespace Codewright.Session

open Transcript
open Workspace (FileSystem Path)

variable {σ : Type}

/-- The number of rounds that the number of a stage stands for. -/
def Stage.rounds (past : List Turn) : Stage → Nat
  | drafting _ _ | revising _ _ => plansSinceDiversion past
  | generating _ _ _ | reviewing _ _ _ => past.count .code
  | notStarted | awaitingTask _ | mocking _ _ _ | regenerating _ _ _ => 0

theorem Stage.Counts.iteration {past : List Turn} {s : Stage} {n : UInt32} (h : s.Counts past)
    (hn : s.iteration? = some n) : n = .ofNat (s.rounds past) ∧ 1 ≤ s.rounds past := by
  cases s with
  | revising =>
      cases hn
      exact ⟨h.1, h.2.2⟩
  | reviewing =>
      cases hn
      exact h
  | _ => cases hn

theorem eq_zero_of_lt_one {n : UInt32} (h : ¬1 ≤ n) : n.toNat = 0 := by
  rw [UInt32.le_iff_toNat_le] at h
  exact Nat.lt_one_iff.mp (Nat.not_le.mp h)

/-- What a session is like after any moves, and which ids can be missing in the next one. The number
of a round is zero only when there have been as many rounds as there are numbers, or a multiple. -/
theorem run_resting (env : Environment σ) (settings : Settings) (root : Path) (tabId : String)
    (outside : σ) (files : FileSystem) (moves : List Move) :
    let r₀ := Session.new settings root tabId outside files
    let r := run env r₀ moves
    let stage := r.session.state.stage
    let rounds := stage.rounds (turns env r₀ moves)
    stage.isPassing = false ∧
      (stage.context?.bind Context.uploadId).isSome = stage.isUploaded ∧
      (stage.context? = none ↔ stage = .notStarted) ∧
      (∀ c, stage.context? = some c → c.root = root ∧ c.polling = settings.polling ∧
        c.maxRepoSizeBytes = settings.maxRepoSizeBytes) ∧
      (r.session.state.tabId = tabId ∧ r.session.tabId = tabId) ∧
      (∀ n, stage.iteration? = some n → 1 ≤ n ∨ rounds ≠ 0 ∧ UInt32.size ∣ rounds) ∧
      ∀ m : Move,
        (exec (m.perform env) r).1 ≠ .error .uploadIdNotFound ∧
        ((exec (m.perform env) r).1 = .error .conversationIdNotFound →
          (m = .acceptPlan ∨ m = .generateCode) ∧ stage = .notStarted) := by
  intro r₀ r stage rounds
  have hr : Sound _ r.session := (Sound.new settings root tabId outside files).run env moves
  have hs : stage.Resting := hr.resting
  refine ⟨hs.isPassing, hs.isSome_uploadId, ?_, hr.limits, ⟨hr.stateTabId, hr.tabId⟩,
    fun n hn => ?_, fun m => ?_⟩
  · cases stage <;> simp [Stage.context?]
  · have start : History [] r₀ := ⟨⟨rfl, rfl, rfl⟩, rfl⟩
    have hcounts := (start.run env moves).counts
    rw [List.append_nil] at hcounts
    obtain ⟨hofNat, hrounds⟩ := hcounts.iteration hn
    by_cases hone : 1 ≤ n
    · exact .inl hone
    · have hzero := eq_zero_of_lt_one hone
      rw [hofNat, UInt32.toNat_ofNat'] at hzero
      exact .inr ⟨Nat.one_le_iff_ne_zero.mp hrounds, Nat.dvd_of_mod_eq_zero hzero⟩
  · obtain ⟨t, staged, x', res, w', hrun, step, -⟩ := perform_spec env m r.session r.world
    rw [hrun]
    refine ⟨fun he => ?_, fun he => ?_⟩
    · rcases step.missesId hr he with ⟨h, -⟩ | h <;> cases h
    · rcases step.missesId hr he with ⟨-, h⟩ | h
      · exact h
      · cases h

theorem run_resting_planned :
    let env := obliging (.ok "job") ⟨[], []⟩
    let r := planned env
    let r₀ := Session.new {} sampleRoot "tab" () sample
    (∃ c, r.session.state.stage.context? = some c ∧ c.root = sampleRoot ∧ c.polling = {} ∧
      c.maxRepoSizeBytes = defaultMaxRepoSizeBytes) ∧
      r.session.state.stage.iteration? = some 1 ∧
      (exec (Move.acceptPlan.perform env) r₀).1 = .error .conversationIdNotFound ∧
      r₀.session.state.stage = .notStarted := by
  intro env r r₀
  obtain ⟨-, -, -, hc, -, -, -⟩ := run_resting env {} sampleRoot "tab" () sample
    [.preload "task", .send "message"]
  obtain ⟨-, -, -, -, -, -, hm⟩ := run_resting env {} sampleRoot "tab" () sample []
  have hplan : r = _ := planned_obliging
  have hcontext : r.session.state.stage.context? = some (sampleContext.withUploadId "place") := by
    rw [hplan]
    rfl
  have hiteration : r.session.state.stage.iteration? = some 1 := by
    rw [hplan]
    rfl
  exact ⟨⟨_, hcontext, hc _ hcontext⟩, hiteration, rfl, ((hm .acceptPlan).2 rfl).2⟩

/-! ## All numbers used up -/

section

variable {env : Environment Unit} {r : Running Unit} {c : Context} {n : UInt32}

/-- Whoever says something about a plan gets another one. -/
theorem perform_send_revising (henv : env = obliging (.ok "job") ⟨[], []⟩)
    (hc : c = sampleContext.withUploadId "place") (hs : r.session.state.stage = .revising c n) :
    (exec (Move.perform env (.send "message")) r).2.session.state.stage = .revising c (n + 1) := by
  subst henv hc
  obtain ⟨⟨_, _, _, _, ⟨_, _, _, _⟩, _, _, _⟩, _⟩ := r
  obtain rfl := hs
  rfl

theorem run_sends_revising (henv : env = obliging (.ok "job") ⟨[], []⟩)
    (hc : c = sampleContext.withUploadId "place") (hs : r.session.state.stage = .revising c n)
    (k : Nat) :
    (run env r (List.replicate k (.send "message"))).session.state.stage =
      .revising c (n + .ofNat k) := by
  induction k generalizing r n with
  | zero =>
      have hsum : n + .ofNat 0 = n := UInt32.add_zero n
      rw [hsum]
      exact hs
  | succ k ih =>
      have hnext := ih (perform_send_revising henv hc hs)
      have hsum : n + 1 + .ofNat k = n + .ofNat (k + 1) := by
        rw [UInt32.ofNat_add, UInt32.add_assoc, UInt32.add_comm 1]
        rfl
      rw [← hsum]
      exact hnext

end

/-- After as many plans as there are numbers, the number of the round is zero. -/
theorem iteration_used_up :
    (run (obliging (.ok "job") ⟨[], []⟩) (Session.new {} sampleRoot "tab" () sample)
      (.preload "task" :: List.replicate UInt32.size (.send "message"))).session.state.stage =
        .revising (sampleContext.withUploadId "place") 0 := by
  have hplan : (planned (obliging (.ok "job") ⟨[], []⟩)).session.state.stage =
      .revising (sampleContext.withUploadId "place") 1 := by
    rw [planned_obliging]
  have hsplit (moves : List Move) :
      run (obliging (.ok "job") ⟨[], []⟩) (Session.new {} sampleRoot "tab" () sample)
          (.preload "task" :: .send "message" :: moves) =
        run (obliging (.ok "job") ⟨[], []⟩) (planned (obliging (.ok "job") ⟨[], []⟩)) moves := rfl
  have hmoves : List.replicate UInt32.size (Move.send "message") =
      .send "message" :: List.replicate (UInt32.size - 1) (.send "message") := List.replicate_succ
  have hzero : 1 + UInt32.ofNat (UInt32.size - 1) = 0 := by decide
  rw [hmoves, hsplit, run_sends_revising rfl rfl hplan, hzero]

end Codewright.Session
