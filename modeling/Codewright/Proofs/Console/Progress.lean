import Codewright.Proofs.Console.Retry
import Codewright.Proofs.Session.Progress

/-!
# Signals at the console

A line switches progress and the input line on and off as the operation does that it asks for. If it
fails the user is told about one error at its end, and otherwise about none.
-/

namespace Codewright.Console

open Session
open Workspace (FileSystem Path)

variable {α σ τ : Type} {s : Surroundings τ} {x₀ : Session} {r r₁ : Running (Watched τ)}

/-! ## Commands -/

/-- A command, begun in `r`, comes to have a state handle a message. -/
inductive Command.Reaches (s : Surroundings τ) (r : Running (Watched τ)) : Command → Prop where
  | code : (exec acceptPlan r).1 = .ok ⟨⟩ → Reaches s r .code
  | retry : Reaches s r .retry
  | say {message : String} : (exec (preload s.environment message) r).1 = .ok ⟨⟩ →
      Reaches s r (.say message)

instance Command.decidableReaches (s : Surroundings τ) (r : Running (Watched τ)) (c : Command) :
    Decidable (c.Reaches s r) :=
  match c with
  | .code =>
    match h : (exec acceptPlan r).1 with
    | .ok _ => isTrue (.code h)
    | .error _ => isFalse fun | .code h' => by cases h.symm.trans h'
  | .accept => isFalse nofun
  | .retry => isTrue .retry
  | .say message =>
    match h : (exec (preload s.environment message) r).1 with
    | .ok _ => isTrue (.say h)
    | .error _ => isFalse fun | .say h' => by cases h.symm.trans h'

/-- Watching a token is not seen. -/
theorem shows_interruptible {tabId : String} {p i : List Bool} {n : Nat}
    {o : Operation (Watched τ) α}
    (h : ∀ t, (watching t r).world.Shows tabId p i n (exec o (watching t r)).2.world) :
    r.world.Shows tabId p i n (exec (interruptible o) r).2.world := by
  rw [exec_interruptible]
  exact h _

/-- What is shown while one operation follows another, if the first one shows nothing itself. -/
theorem shows_seq {tabId : String} {p i : List Bool} {reached : Prop} [Decidable reached]
    {first : Operation (Watched τ) Unit} {o : Operation (Watched τ) α}
    (hreached : reached ↔ (exec first r).1 = .ok ⟨⟩)
    (hfirst : r.world.Shows tabId [] [] 0 (exec first r).2.world)
    (ho : ∀ r₁ t, exec first r = (.ok ⟨⟩, r₁) →
      (watching t r₁).world.Shows tabId p i 0 (exec o (watching t r₁)).2.world) :
    r.world.Shows tabId (if reached then p else []) (if reached then i else []) 0
      (exec (do first; let _ ← interruptible o) r).2.world := by
  rw [exec_seq]
  rcases h : exec first r with ⟨e | _, r₁⟩
  · rw [h] at hfirst hreached
    have hnot : ¬reached := fun h' => by cases hreached.mp h'
    rw [if_neg hnot, if_neg hnot]
    exact hfirst
  · rw [h] at hfirst hreached
    have hyes : reached := hreached.mpr rfl
    rw [if_pos hyes, if_pos hyes]
    exact hfirst.trans (shows_interruptible fun t => ho r₁ t h)

theorem exec_acceptPlan_again (h : exec acceptPlan r = (.ok ⟨⟩, r₁))
    (hr : r.session.state.stage.Resting) (t : Option Token) :
    exec acceptPlan (watching t r₁) = (.ok ⟨⟩, watching t r₁) := by
  obtain ⟨x', res, w', hrun, acceptance, -⟩ := acceptPlan_spec r.session r.world
  obtain ⟨rfl, rfl⟩ := Prod.mk.inj (h.symm.trans hrun)
  obtain ⟨c, hs, -⟩ := acceptance.generating hr
  simp [acceptPlan, hs]

theorem sound_of_move (env : Environment σ) {r : Running σ} (hr : Sound x₀ r.session) (m : Move)
    {o : Operation σ α} {f : α → Reply} (ho : m.perform env = do return f (← o)) :
    Sound x₀ (exec o r).2.session := by
  have hmove : Sound x₀ (exec (m.perform env) r).2.session := hr.run env [m]
  rwa [ho, exec_return] at hmove

theorem run_code_shows (s : Surroundings τ) (hr : Sound x₀ r.session) :
    let reached := Command.code.Reaches s r
    r.world.Shows x₀.tabId (if reached then [true, false] else [])
      (if reached then [false, true] else []) 0 (exec (run s .code) r).2.world := by
  intro reached
  have haccept := shows_of_move s.environment hr .acceptPlan rfl
  refine shows_seq ⟨fun | .code h => h, .code⟩ haccept fun r₁ t h => ?_
  have hr₁ := sound_of_move s.environment hr .acceptPlan rfl
  rw [h] at hr₁
  -- The plan is accepted already, so that it is accepted once more.
  have hlocked : ∃ r₂, Move.generateCode.Reaches (watching t r₁) r₂ :=
    ⟨_, .generateCode (exec_acceptPlan_again h hr.resting t)⟩
  have hshows := generateCode_shows s.environment (r := watching t r₁) hr₁
  simp only [if_pos hlocked] at hshows
  exact hshows

theorem run_say_shows (s : Surroundings τ) (hr : Sound x₀ r.session) (message : String) :
    let reached := (Command.say message).Reaches s r
    r.world.Shows x₀.tabId (if reached then [true, false] else []) [] 0
      (exec (run s (.say message)) r).2.world := by
  intro reached
  have hpreload := shows_of_move s.environment hr (.preload message) rfl
  have hshows : r.world.Shows x₀.tabId (if reached then [true, false] else [])
      (if reached then [] else []) 0 (exec (run s (.say message)) r).2.world := by
    refine shows_seq ⟨fun | .say h => h, .say⟩ hpreload fun r₁ t h => ?_
    have hr₁ := sound_of_move s.environment hr (.preload message) rfl
    rw [h] at hr₁
    exact shows_of_move s.environment (r := watching t r₁) hr₁ (.send message) rfl
  rwa [ite_self] at hshows

/-- A command shows the same as the operation that it asks for, and no error. -/
theorem run_shows (s : Surroundings τ) (hr : Sound x₀ r.session) (c : Command) :
    r.world.Shows x₀.tabId (if c.Reaches s r then [true, false] else [])
      (if c = .code ∧ c.Reaches s r then [false, true] else []) 0
      (exec (run s c) r).2.world := by
  cases c with
  | code =>
      simp only [true_and]
      exact run_code_shows s hr
  | accept =>
      rw [exec_run_accept]
      exact shows_of_move s.environment hr (.acceptChanges _) rfl
  | retry =>
      rw [exec_run_retry]
      exact shows_interruptible fun t =>
        shows_of_move s.environment (r := watching t r) hr .retry rfl
  | say message => exact run_say_shows s hr message

/-! ## Runs -/

theorem log_handleError (e : Error) (r : Running σ) : ∃ message retries phase,
    (exec (handleError e) r).2.world.log =
      .event (.errorMessage message r.session.tabId retries phase) :: r.world.log :=
  ⟨_, _, _, rfl⟩

/-- Whatever comes of it, at the end of a move or a line nothing is shown to be in progress and the
input line is not locked: progress is switched on once and then off once, if a state handles a
message, and so is the lock, if code is generated for the plan. Everything is shown in the tab of
the session. A line that fails ends with one error, and a line that succeeds tells of none. -/
theorem never_left_busy (env : Environment σ) (s : Surroundings τ) (settings : Settings)
    (root : Path) (tabId : String) (outside : σ) (around : τ) (files : FileSystem) :
    (∀ (moves : List Move) (m : Move),
      let r := Session.run env (Session.new settings root tabId outside files) moves
      let reached := ∃ r₁, m.Reaches r r₁
      r.world.Shows tabId (if reached then [true, false] else [])
        (if m.locksInput ∧ reached then [false, true] else []) m.errorsTold
        (exec (m.perform env) r).2.world) ∧
    ∀ r, Reached s (Session.new settings root tabId ⟨around, none⟩ files) r → ∀ line,
      let c := Command.ofLine line
      r.world.Shows tabId (if c.Reaches s r then [true, false] else [])
          (if c = .code ∧ c.Reaches s r then [false, true] else []) 0 (exec (run s c) r).2.world ∧
        match exec (run s c) r with
        | (.ok _, r₁) => exec (handleLine s line) r = (.ok ⟨⟩, r₁)
        | (.error _, r₁) => ∃ message retries phase,
            (exec (handleLine s line) r).2.world.log =
              .event (.errorMessage message tabId retries phase) :: r₁.world.log := by
  refine ⟨fun moves m => ?_, fun r hr line => ?_⟩
  · have hsound := (Sound.new settings root tabId outside files).run env moves
    exact perform_shows env hsound m
  · intro c
    have hidle := hr.idle (.new settings root tabId (⟨around, none⟩ : Watched τ) files)
    refine ⟨run_shows s hidle.sound c, ?_⟩
    have hafter := (hidle.run s c).sound
    rw [exec_handleLine]
    rcases hrun : exec (run s c) r with ⟨e | _, r₁⟩
    · rw [hrun] at hafter
      have htab : r₁.session.tabId = tabId := hafter.tabId
      obtain ⟨message, retries, phase, hlog⟩ := log_handleError e r₁
      exact ⟨message, retries, phase, htab ▸ hlog⟩
    · rfl

theorem never_left_busy_refused :
    let s := unhelpful (.ok "conversation")
    let start := Session.new {} sampleRoot "tab" (⟨(), none⟩ : Watched Unit) sample
    let r := (exec (handleLine s "hello") start).2
    Reached s start r ∧
      (exec (run s .retry) r).1 = .error (.serverSide .upload ⟨.serverError, "refused"⟩) ∧
      r.world.Shows "tab" [true, false] [] 0 (exec (run s .retry) r).2.world ∧
      ∃ message retries phase, (exec (handleLine s "/retry") r).2.world.log =
        .event (.errorMessage message "tab" retries phase) ::
          (exec (run s .retry) r).2.world.log := by
  intro s start r
  have hretry : Command.ofLine "/retry" = .retry := by decide +kernel
  have hr : Reached s start r := .handled "hello" .start
  have hrun : (exec (run s .retry) r).1 =
      .error (.serverSide .upload ⟨.serverError, "refused"⟩) := by
    have hrefused : r = _ := congrArg Prod.snd exec_handleLine_refused
    rw [hrefused, exec_run_retry, exec_interruptible, exec_retry,
      exec_forward_of_snapshot (c := sampleContext) rfl take_sample]
    rfl
  obtain ⟨hshows, herror⟩ := (never_left_busy (obliging (.ok "job") ⟨[], []⟩) s {} sampleRoot
    "tab" () () sample).2 r hr "/retry"
  rw [hretry] at hshows herror
  refine ⟨hr, hrun, hshows, ?_⟩
  rcases h : exec (run s .retry) r with ⟨e | _, r₁⟩
  · rw [h] at herror
    exact herror
  · rw [h] at hrun
    cases hrun

end Codewright.Console
