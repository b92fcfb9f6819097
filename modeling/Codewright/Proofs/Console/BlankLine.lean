import Codewright.Proofs.Console.Retry
import Codewright.Proofs.Session.Routing
import Codewright.Proofs.Text.Trim

/-!
# Blank lines

A line of white space is a message without text. Where a message is wanted it is refused before
anything is done about it, and the session stays as it is. Before there is a conversation, though,
one is started for it.
-/

namespace Codewright.Session

variable {σ : Type}

theorem blank_empty : Blank (some "") := by
  rintro m ⟨⟩
  rfl

theorem forward_empty (env : Environment σ) {r : Running σ}
    (hs : r.session.state.stage.wantsMessage = true)
    (halive : r.world.tokens.isCancelled r.session.state.token = false) :
    exec (forward env (some "")) r = (.error .userMessageNotFound,
      { r with world := { r.world with
          log := .event (.progress r.session.tabId false none) ::
            .event (.progress r.session.tabId true none) :: r.world.log } }) := by
  simp [forward, interact_blank env hs blank_empty, renewToken, halive]

end Codewright.Session

namespace Codewright.Console

open Session
open Workspace (FileSystem Path)

variable {σ : Type}

/-! ## Blank lines -/

theorem ofLine_of_blank {line : String} (h : Text.isBlankText line = true) :
    Command.ofLine line = .say "" := by
  rw [Command.ofLine, Text.trim_of_blank h]
  decide +kernel

theorem exec_run_empty (s : Surroundings σ) {r : Running (Watched σ)}
    (hs : r.session.state.stage.wantsMessage = true)
    (halive : r.world.tokens.isCancelled r.session.state.token = false) :
    exec (run s (.say "")) r = (.error .userMessageNotFound,
      { session := { r.session with lastMessage := some "" }
        world := { (watching none r).world with
          log := .event (.progress r.session.tabId false none) ::
            .event (.progress r.session.tabId true none) :: r.world.log } }) := by
  have hstarted : r.session.state.stage ≠ .notStarted := by
    intro h
    rw [h] at hs
    cases hs
  have hforward := forward_empty s.environment
    (r := ⟨{ r.session with lastMessage := some "" },
      (watching (some r.session.state.token) r).world⟩) hs halive
  simp only [exec_run_say, exec_preload_started _ _ hstarted, exec_interruptible, exec_send,
    session_watching, hforward]
  rfl

/-- In a conversation, a blank line is refused wherever a message is wanted: no call is made for it,
and it leaves nothing but a report. -/
theorem blank_line_ignored (s : Surroundings σ) (settings : Settings) (root : Path)
    (tabId : String) (outside : σ) (files : FileSystem) (r : Running (Watched σ))
    (hr : Reached s (Session.new settings root tabId ⟨outside, none⟩ files) r)
    (hstarted : r.session.state.stage ≠ .notStarted)
    (hcode : ∀ c n changes, r.session.state.stage ≠ .generating c n changes) (line : String)
    (hline : Text.isBlankText line = true) :
    (exec (run s (.ofLine line)) r).1 = .error .userMessageNotFound ∧
      exec (handleLine s line) r = (.ok ⟨⟩,
        { session := { r.session with lastMessage := some "" }
          world := { (watching none r).world with
            log :=
              .event (.errorMessage Error.userMessageNotFound.message r.session.tabId
                r.session.retries r.session.state.stage.phase) ::
              .event (.progress r.session.tabId false none) ::
              .event (.progress r.session.tabId true none) :: r.world.log } }) := by
  have hidle := hr.idle (.new settings root tabId (⟨outside, none⟩ : Watched σ) files)
  have hwants : r.session.state.stage.wantsMessage = true := by
    have hresting := hidle.sound.resting
    cases hs : r.session.state.stage with
    | awaitingTask | drafting | revising | reviewing => rfl
    | notStarted => exact absurd hs hstarted
    | generating => exact absurd hs (hcode _ _ _)
    | mocking | regenerating =>
        rw [hs] at hresting
        exact hresting.elim
  have hrun := exec_run_empty s hwants (hidle.alive hstarted)
  rw [exec_handleLine, ofLine_of_blank hline, hrun]
  exact ⟨rfl, rfl⟩

theorem blank_line_ignored_refused :
    let s := unhelpful (.ok "conversation")
    let r := (exec (handleLine s "hello")
      (Session.new {} sampleRoot "tab" (⟨(), none⟩ : Watched Unit) sample)).2
    Text.isBlankText " \t" = true ∧
      (∃ c, r.session.state.stage = .awaitingTask c) ∧
      (exec (run s (.ofLine " \t")) r).1 = .error .userMessageNotFound ∧
      (exec (handleLine s " \t") r).2.session = { r.session with lastMessage := some "" } := by
  intro s r
  have hblank : Text.isBlankText " \t" = true := by decide +kernel
  have hrun : r = (exec (handleError (.serverSide .upload ⟨.serverError, "refused"⟩)) refused).2 :=
    congrArg Prod.snd exec_handleLine_refused
  have hstage : ∃ c, r.session.state.stage = .awaitingTask c := ⟨_, by rw [hrun]; rfl⟩
  obtain ⟨c, hs⟩ := hstage
  obtain ⟨hresult, hleft⟩ := blank_line_ignored s {} sampleRoot "tab" () sample r
    (.handled "hello" .start) (by rw [hs]; nofun) (by rw [hs]; nofun) " \t" hblank
  exact ⟨hblank, ⟨c, hs⟩, hresult, by rw [hleft]⟩

/-- Before there is a conversation, a blank line starts one and becomes its task. -/
theorem blank_line_starts_conversation :
    let s := unhelpful (.ok "conversation")
    let r := Session.new {} sampleRoot "tab" (⟨(), none⟩ : Watched Unit) sample
    let r' := (exec (handleLine s " ") r).2
    Text.isBlankText " " = true ∧ r.session.state.stage = .notStarted ∧
      (exec (run s (.ofLine " ")) r).1 = .error .userMessageNotFound ∧
      r'.world.log.getLast? = some (.call .createConversation (.ok "conversation")) ∧
      r'.session.conversationId? = some "conversation" ∧ r'.session.task = some "" := by
  intro s r r'
  have hblank : Text.isBlankText " " = true := by decide +kernel
  have hline : Command.ofLine " " = .say "" := ofLine_of_blank hblank
  have hr' : r' = (exec (handleError .userMessageNotFound) (exec (run s (.say "")) r).2).2 := by
    simp only [r', exec_handleLine, hline]
    rfl
  rw [hline, hr']
  exact ⟨hblank, by rfl, by rfl, by rfl, by rfl, by rfl⟩

end Codewright.Console
