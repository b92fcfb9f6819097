import Codewright.Console.Run
import Codewright.Proofs.Session.Succession

/-!
# Executing lines

What the commands of the console result in, and what holds of a session between two lines.
-/

namespace Codewright.Console

open Session
open Session.Transcript
open Workspace (FileSystem Path)

variable {α σ : Type}

/-! ## Commands -/

/-- A session whose surroundings watch a token, or none. -/
def watching (token : Option Token) (r : Running (Watched σ)) : Running (Watched σ) :=
  { r with world := { r.world with outside := { r.world.outside with token } } }

@[simp] theorem session_watching (t : Option Token) (r : Running (Watched σ)) :
    (watching t r).session = r.session := rfl

@[simp] theorem exec_watch (t : Option Token) (r : Running (Watched σ)) :
    exec (watch t) r = (.ok ⟨⟩, watching t r) := rfl

theorem exec_interruptible (o : Operation (Watched σ) α) (r : Running (Watched σ)) :
    exec (interruptible o) r =
      ((exec o (watching (some r.session.state.token) r)).1,
        watching none (exec o (watching (some r.session.state.token) r)).2) := by
  simp only [interruptible, exec_bind, exec_get, exec_watch, Operation.exec_attempt]
  cases (exec o (watching (some r.session.state.token) r)).1 with
  | error e => simp
  | ok x => simp

theorem exec_seq (first : Operation (Watched σ) Unit) (o : Operation (Watched σ) α)
    (r : Running (Watched σ)) :
    exec (do first; let _ ← o) r =
      match exec first r with
      | (.ok _, r₁) => ((exec o r₁).1.map fun _ => ⟨⟩, (exec o r₁).2)
      | (.error e, r₁) => (.error e, r₁) := by
  rw [exec_bind]
  rcases exec first r with ⟨e | x, r₁⟩
  · rfl
  · exact exec_return _ _ _

theorem exec_run_retry (s : Surroundings σ) (r : Running (Watched σ)) :
    exec (run s .retry) r =
      ((exec (interruptible (retry s.environment)) r).1.map fun _ => ⟨⟩,
        (exec (interruptible (retry s.environment)) r).2) := by
  rw [run, exec_return]

theorem exec_run_accept (s : Surroundings σ) (r : Running (Watched σ)) :
    exec (run s .accept) r =
      ((exec (acceptChanges (s.disk r.world.outside.outside)) r).1.map fun _ => ⟨⟩,
        (exec (acceptChanges (s.disk r.world.outside.outside)) r).2) := by
  rw [run, exec_bind, exec_get]
  exact exec_return _ _ _

theorem exec_run_say (s : Surroundings σ) (message : String) (r : Running (Watched σ)) :
    exec (run s (.say message)) r =
      match exec (preload s.environment message) r with
      | (.ok _, r₁) =>
        ((exec (interruptible (send s.environment message)) r₁).1.map fun _ => ⟨⟩,
          (exec (interruptible (send s.environment message)) r₁).2)
      | (.error e, r₁) => (.error e, r₁) := by
  rw [run, exec_seq]

theorem exec_handleLine (s : Surroundings σ) (line : String) (r : Running (Watched σ)) :
    exec (handleLine s line) r =
      match exec (run s (.ofLine line)) r with
      | (.ok _, r₁) => (.ok ⟨⟩, r₁)
      | (.error e, r₁) => exec (handleError e) r₁ := by
  simp only [handleLine, exec_bind, Operation.exec_attempt]
  rcases exec (run s (.ofLine line)) r with ⟨e | x, r₁⟩
  · rfl
  · rfl

/-- A line is always carried out, since errors are reported. -/
theorem exec_handleLine_eq (s : Surroundings σ) (line : String) (r : Running (Watched σ)) :
    exec (handleLine s line) r = (.ok ⟨⟩, (exec (handleLine s line) r).2) := by
  rw [exec_handleLine]
  rcases exec (run s (.ofLine line)) r with ⟨e | _, r₁⟩ <;> rfl

/-- The conversation is started only once. -/
theorem exec_preload_started (env : Environment σ) (message : String) {r : Running σ}
    (h : r.session.state.stage ≠ .notStarted) : exec (preload env message) r = (.ok ⟨⟩, r) := by
  cases hs : r.session.state.stage with
  | notStarted => exact absurd hs h
  | _ => simp [preload, hs]

/-! ## Between two lines -/

/-- What can become of a session while lines are carried out. In between others may change the
workspace. -/
inductive Reached (s : Surroundings σ) (start : Running (Watched σ)) :
    Running (Watched σ) → Prop where
  | start : Reached s start start
  | handled {r : Running (Watched σ)} (line : String) :
      Reached s start r → Reached s start (exec (handleLine s line) r).2
  | edited {r : Running (Watched σ)} (files : FileSystem) :
      Reached s start r → Reached s start { r with world := { r.world with files } }

theorem Reached.handleLines {s : Surroundings σ} {start r : Running (Watched σ)}
    (h : Reached s start r) (lines : List (Option String)) :
    Reached s start (exec (Console.handleLines s lines) r).2 := by
  induction lines generalizing r with
  | nil => exact h
  | cons line lines ih =>
      cases line with
      | none => exact h
      | some line =>
          have hrun : exec (Console.handleLines s (some line :: lines)) r =
              exec (Console.handleLines s lines) (exec (handleLine s line) r).2 := by
            rw [Console.handleLines, exec_bind, exec_handleLine_eq]
          rw [hrun]
          exact ih (h.handled line)

/-- Nothing is being done for a session that has come about from `x₀`: its state is one that waits
for the user, and if there is a conversation its token is not cancelled. -/
structure Idle (x₀ : Session) (r : Running σ) : Prop where
  sound : Sound x₀ r.session
  steady : r.Steady
  alive : r.session.state.stage ≠ .notStarted →
    r.world.tokens.isCancelled r.session.state.token = false

namespace Idle

variable {x₀ : Session} {r r' : Running σ}

theorem congr (h : Idle x₀ r) (hs : r'.session = r.session)
    (ht : r'.world.tokens = r.world.tokens) : Idle x₀ r' := by
  obtain ⟨x, w⟩ := r'
  obtain rfl : x = r.session := hs
  refine ⟨h.sound, ⟨?_, ?_⟩, ?_⟩
  · rw [ht]
    exact h.steady.onlyMade
  · rw [ht]
    exact h.steady.made
  · rw [ht]
    exact h.alive

/-- The conversation starts with a new token. -/
theorem alive_preload (env : Environment σ) (message : String) (h : Idle x₀ r)
    (hs : (exec (preload env message) r).2.session.state.stage ≠ .notStarted) :
    (exec (preload env message) r).2.world.tokens.isCancelled
      (exec (preload env message) r).2.session.state.token = false := by
  by_cases hst : r.session.state.stage = .notStarted
  · have hts : r.world.tokens.Evolved
        (exec (Action.call env .createConversation (.serverSide .conversation)) r.world).2.tokens :=
      Action.evolving_call _ _ _
    rcases hcall : exec (Action.call env .createConversation (.serverSide .conversation)) r.world
      with ⟨e | id, w₁⟩
    · simp [preload, hst, hcall] at hs
    · rw [hcall] at hts
      simp only [preload, hst, hcall, exec_bind, exec_get, Operation.exec_act, exec_newToken,
        Operation.exec_update]
      exact Tokens.isCancelled_fresh (hts.onlyMade h.steady.onlyMade)
  · rw [exec_preload_started env message hst]
    exact h.alive hst

/-- A plan is accepted with a new token. -/
theorem alive_acceptPlan (h : Idle x₀ r)
    (hs : (exec acceptPlan r).2.session.state.stage ≠ .notStarted) :
    (exec acceptPlan r).2.world.tokens.isCancelled
      (exec acceptPlan r).2.session.state.token = false := by
  cases hst : r.session.state.stage with
  | revising c n =>
      cases hc : c.uploadId with
      | none =>
          have hsame : (exec acceptPlan r).2 = r := by
            simp [acceptPlan, hst, Context.requireUploadId, hc]
          rw [hsame] at hs ⊢
          exact h.alive hs
      | some uploadId =>
          simp only [acceptPlan, hst, Context.requireUploadId, hc, exec_bind, exec_get,
            exec_ofExcept, Operation.exec_act, exec_newToken, Operation.exec_update]
          exact Tokens.isCancelled_fresh h.steady.onlyMade
  | _ =>
      have hsame : (exec acceptPlan r).2 = r := by simp [acceptPlan, hst]
      rw [hsame] at hs ⊢
      exact h.alive hs

/-- What is cancelled while a move is carried out is left behind by it. -/
theorem perform (h : Idle x₀ r) (env : Environment σ) {m : Move} (hm : ∀ t, m ≠ .cancel t) :
    Idle x₀ (exec (m.perform env) r).2 := by
  refine ⟨h.sound.run env [m], (perform_onward env h.steady m).steady h.steady, fun hs => ?_⟩
  cases m with
  | preload message =>
      rw [Move.perform, exec_return] at hs ⊢
      exact h.alive_preload env message hs
  | send message => exact (perform_relayed env h.steady .send).alive
  | retry => exact (perform_relayed env h.steady .retry).alive
  | acceptPlan =>
      rw [Move.perform, exec_return] at hs ⊢
      exact h.alive_acceptPlan hs
  | generateCode =>
      rcases haccept : exec acceptPlan r with ⟨e | _, r₁⟩
      · have hrun : (exec (Move.generateCode.perform env) r).2 = (exec acceptPlan r).2 := by
          rw [Move.perform, exec_return]
          simp [generateCode, haccept]
        rw [hrun] at hs ⊢
        exact h.alive_acceptPlan hs
      · exact (perform_relayed env h.steady (.generateCode haccept)).alive
  | acceptChanges disk =>
      obtain ⟨t, res, fs, hrun, -⟩ := acceptChanges_spec env.format disk r.session r.world
      rw [Move.perform, exec_return, hrun] at hs ⊢
      exact h.alive hs
  | handleError | edit => exact h.alive hs
  | cancel t => exact absurd rfl (hm t)

/-- The operation behind a move does the same. -/
theorem of_move (h : Idle x₀ r) (env : Environment σ) (m : Move) {o : Operation σ α}
    {f : α → Reply} (hm : ∀ t, m ≠ .cancel t) (ho : m.perform env = do return f (← o)) :
    Idle x₀ (exec o r).2 := by
  have hmove := h.perform env hm
  rwa [ho, exec_return] at hmove

theorem interruptible {r : Running (Watched σ)} {o : Operation (Watched σ) α} (h : Idle x₀ r)
    (ho : ∀ {r}, Idle x₀ r → Idle x₀ (exec o r).2) :
    Idle x₀ (exec (Console.interruptible o) r).2 := by
  have hwatched : Idle x₀ (watching (some r.session.state.token) r) := h.congr rfl rfl
  rw [exec_interruptible]
  exact (ho hwatched).congr rfl rfl

theorem seq {r : Running (Watched σ)} {first : Operation (Watched σ) Unit}
    {o : Operation (Watched σ) α} (hfirst : Idle x₀ (exec first r).2)
    (ho : ∀ {r}, Idle x₀ r → Idle x₀ (exec o r).2) :
    Idle x₀ (exec (do first; let _ ← o) r).2 := by
  rw [exec_seq]
  rcases hrun : exec first r with ⟨e | _, r₁⟩
  · rw [hrun] at hfirst
    exact hfirst
  · rw [hrun] at hfirst
    exact ho hfirst

theorem run {r : Running (Watched σ)} (h : Idle x₀ r) (s : Surroundings σ) (c : Command) :
    Idle x₀ (exec (Console.run s c) r).2 := by
  cases c with
  | code =>
      exact seq (h.of_move s.environment .acceptPlan nofun rfl) fun h =>
        h.interruptible fun h => h.of_move s.environment .generateCode nofun rfl
  | accept =>
      rw [exec_run_accept]
      exact h.of_move s.environment (.acceptChanges _) nofun rfl
  | retry =>
      rw [exec_run_retry]
      exact h.interruptible fun h => h.of_move s.environment .retry nofun rfl
  | say message =>
      exact seq (h.of_move s.environment (.preload message) nofun rfl) fun h =>
        h.interruptible fun h => h.of_move s.environment (.send message) nofun rfl

theorem handleLine {r : Running (Watched σ)} (h : Idle x₀ r) (s : Surroundings σ)
    (line : String) : Idle x₀ (exec (Console.handleLine s line) r).2 := by
  have hline := h.run s (.ofLine line)
  rw [exec_handleLine]
  rcases hrun : exec (Console.run s (.ofLine line)) r with ⟨e | _, r₁⟩
  · rw [hrun] at hline
    exact hline.of_move s.environment (.handleError e) nofun rfl
  · rw [hrun] at hline
    exact hline

theorem new (settings : Settings) (root : Path) (tabId : String) (outside : σ)
    (files : FileSystem) : Idle (Session.new settings root tabId outside files).session
      (Session.new settings root tabId outside files) :=
  ⟨.new settings root tabId outside files, .new settings root tabId outside files,
    fun h => absurd rfl h⟩

end Idle

theorem Reached.idle {s : Surroundings σ} {x₀ : Session} {start r : Running (Watched σ)}
    (h : Reached s start r) (hstart : Idle x₀ start) : Idle x₀ r := by
  induction h with
  | start => exact hstart
  | handled line _ ih => exact ih.handleLine s line
  | edited files _ ih => exact ih.congr rfl rfl

end Codewright.Console
