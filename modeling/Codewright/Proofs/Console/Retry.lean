import Codewright.Proofs.Console.Execution

/-!
# Saying it again

`/retry` passes the last message on once more. It does the same as entering that message again, if
there was a conversation that the message belongs to. When the conversation itself could not be
started, the message has not been kept.
-/

namespace Codewright.Console

open Session
open Session.Transcript
open Staging (StagedFile)
open Workspace (ArchiveFormat FileSystem Path)

variable {α σ : Type}

/-! ## What was said last -/

/-- There is a conversation, and this was said last. -/
structure Said (message : String) (x : Session) : Prop where
  started : x.state.stage ≠ .notStarted
  lastMessage : x.lastMessage = some message

namespace Said

variable {message : String} {format : ArchiveFormat} {fs : FileSystem} {tokens : Tokens}
  {x x' : Session}
  {m : Option String} {t : List LogEntry} {files : List StagedFile}

theorem forward {res : Except Error (Option String)}
    (h : Forward format fs tokens x m t files x' res) (hx : Said message x) : Said message x' := by
  rcases h.outcome with ⟨token, e, u, rfl, -⟩ | ⟨s', outcome, u, rfl, -, interaction, -⟩
  · exact ⟨hx.started, hx.lastMessage⟩
  · exact ⟨interaction.leads.1.ne_notStarted, hx.lastMessage⟩

theorem handleError {r : Running σ} (h : Said message r.session) (e : Error) :
    Said message (exec (Session.handleError e) r).2.session :=
  ⟨h.started, h.lastMessage⟩

/-- A message has been said if the conversation is there. -/
theorem of_run {s : Surroundings σ} {r : Running (Watched σ)}
    (h : ∀ cause, (exec (run s (.say message)) r).1 ≠ .error (.serverSide .conversation cause)) :
    Said message (exec (run s (.say message)) r).2.session := by
  obtain ⟨t, x, res, w, hpreload, step, -⟩ := preload_spec s.environment message r.session r.world
  rw [exec_run_say, hpreload] at h ⊢
  have hstarted : (∃ y, res = .ok y) → x.state.stage ≠ .notStarted := by
    rintro ⟨y, rfl⟩
    cases step with
    | startedBefore hs => exact hs
    | started => nofun
  cases res with
  | error e =>
      cases step with
      | notStarted => exact absurd rfl (h _)
  | ok y =>
      obtain ⟨u, files, x', res', w', hsend, hforward, -⟩ := forward_spec s.environment
        (some message) { x with lastMessage := some message }
        (watching (some x.state.token) ⟨x, w⟩).world
      have hx : Said message { x with lastMessage := some message } := ⟨hstarted ⟨y, rfl⟩, rfl⟩
      have hrun : (exec (interruptible (send s.environment message)) ⟨x, w⟩).2.session = x' := by
        rw [exec_interruptible, exec_send]
        exact congrArg (fun p => p.2.session) hsend
      exact hrun ▸ hx.forward hforward

theorem handleLine {s : Surroundings σ} {line : String} {r : Running (Watched σ)}
    (h : Said message (exec (run s (.ofLine line)) r).2.session) :
    Said message (exec (Console.handleLine s line) r).2.session := by
  rw [exec_handleLine]
  rcases hrun : exec (run s (.ofLine line)) r with ⟨e | _, r₁⟩
  · rw [hrun] at h
    exact h.handleError e
  · rw [hrun] at h
    exact h

theorem retry_eq (s : Surroundings σ) {r : Running (Watched σ)} (h : Said message r.session) :
    exec (run s .retry) r = exec (run s (.say message)) r := by
  have hpreload := exec_preload_started s.environment message h.started
  have hx : { r.session with lastMessage := some message } = r.session := by
    rw [← h.lastMessage]
  simp only [exec_run_retry, exec_run_say, hpreload, exec_interruptible, exec_retry, exec_send,
    session_watching, h.lastMessage, hx]
  rfl

end Said

/-- Whatever came of a message, `/retry` does the same as entering it again, unless the conversation
could not be started for it. -/
theorem retry_repeats (s : Surroundings σ) (line message : String)
    (hline : Command.ofLine line = .say message) (r : Running (Watched σ))
    (h : ∀ cause, (exec (run s (.ofLine line)) r).1 ≠ .error (.serverSide .conversation cause)) :
    let r' := (exec (handleLine s line) r).2
    exec (run s (.ofLine "/retry")) r' = exec (run s (.ofLine line)) r' ∧
      exec (handleLine s "/retry") r' = exec (handleLine s line) r' := by
  intro r'
  have hsaid : Said message r'.session := by
    rw [hline] at h
    have hrun := Said.of_run h
    rw [← hline] at hrun
    exact hrun.handleLine
  have hretry : Command.ofLine "/retry" = .retry := by decide +kernel
  have hsame : exec (run s (.ofLine "/retry")) r' = exec (run s (.ofLine line)) r' := by
    rw [hretry, hline]
    exact hsaid.retry_eq s
  refine ⟨hsame, ?_⟩
  rw [exec_handleLine, exec_handleLine, hsame]

/-- A service that answers nothing but the start of a conversation. -/
def unhelpful (conversation : Except Service.Error String) : Surroundings Unit where
  serve _ c :=
    { result :=
        match c with
        | .createConversation => conversation
        | .createUploadUrl _ _ | .upload _ _ _ _ | .generatePlan _ _ _
        | .startCodeGeneration _ _ _ | .getCodeGeneration _ _ | .exportResult _ =>
          .error ⟨.serverError, "refused"⟩
      outside := () }
  wait _ _ := { result := (), outside := () }
  freshId _ := ("fresh", ())
  format := Workspace.Zip.format
  disk _ := .sound

/-- A session with this service after a first message, whose upload has been refused. -/
def refused : Running (Watched Unit) where
  session :=
    { tabId := "tab", root := sampleRoot
      state := { stage := .awaitingTask sampleContext, tabId := "tab", token := ⟨1, []⟩ }
      task := some "hello", lastMessage := some "hello" }
  world :=
    { outside := ⟨(), none⟩, files := sample, tokens := ⟨2, []⟩
      log :=
        [.event (.progress "tab" false none),
          .call (Transcript.slotRequest sampleContext sampleSnapshot)
            (.error ⟨.serverError, "refused"⟩),
          .event (.progress "tab" true none),
          .call .createConversation (.ok "conversation")] }

theorem exec_run_refused :
    exec (run (unhelpful (.ok "conversation")) (.say "hello"))
        (Session.new {} sampleRoot "tab" ⟨(), none⟩ sample) =
      (.error (.serverSide .upload ⟨.serverError, "refused"⟩), refused) := by
  let s := unhelpful (.ok "conversation")
  let r := (exec (preload s.environment "hello")
    (Session.new {} sampleRoot "tab" ⟨(), none⟩ sample)).2
  have hstarted : exec (preload s.environment "hello")
      (Session.new {} sampleRoot "tab" ⟨(), none⟩ sample) = (.ok ⟨⟩, r) := rfl
  have hsend := exec_send_of_snapshot s.environment (c := sampleContext)
    (r := watching (some r.session.state.token) r) rfl take_sample "hello"
  rw [exec_run_say, hstarted]
  dsimp only
  rw [exec_interruptible, hsend]
  rfl

theorem exec_handleLine_refused :
    exec (handleLine (unhelpful (.ok "conversation")) "hello")
        (Session.new {} sampleRoot "tab" ⟨(), none⟩ sample) =
      exec (handleError (.serverSide .upload ⟨.serverError, "refused"⟩)) refused := by
  have hline : Command.ofLine "hello" = .say "hello" := by decide +kernel
  rw [exec_handleLine, hline, exec_run_refused]

theorem retry_repeats_refused :
    let s := unhelpful (.ok "conversation")
    let r := Session.new {} sampleRoot "tab" (⟨(), none⟩ : Watched Unit) sample
    let r' := (exec (handleLine s "hello") r).2
    Command.ofLine "hello" = .say "hello" ∧
      (exec (run s (.ofLine "hello")) r).1 =
        .error (.serverSide .upload ⟨.serverError, "refused"⟩) ∧
      exec (handleLine s "/retry") r' = exec (handleLine s "hello") r' := by
  intro s r r'
  have hline : Command.ofLine "hello" = .say "hello" := by decide +kernel
  have hrun : (exec (run s (.ofLine "hello")) r).1 =
      .error (.serverSide .upload ⟨.serverError, "refused"⟩) := by
    rw [hline, exec_run_refused]
  refine ⟨hline, hrun, (retry_repeats s "hello" "hello" hline r ?_).2⟩
  rw [hrun]
  nofun

/-- A message for which the conversation could not be started is not repeated: entering it again
asks for the conversation, and `/retry` does not. -/
theorem retry_forgets :
    let s := unhelpful (.error ⟨.serverError, "refused"⟩)
    let r := Session.new {} sampleRoot "tab" (⟨(), none⟩ : Watched Unit) sample
    let r' := (exec (handleLine s "hello") r).2
    (exec (run s (.ofLine "hello")) r).1 =
        .error (.serverSide .conversation ⟨.serverError, "refused"⟩) ∧
      (exec (run s (.ofLine "/retry")) r').1 = .error .illegalStateTransition ∧
      (exec (run s (.ofLine "hello")) r').1 =
        .error (.serverSide .conversation ⟨.serverError, "refused"⟩) := by
  intro s r r'
  have hline : Command.ofLine "hello" = .say "hello" := by decide +kernel
  have hretry : Command.ofLine "/retry" = .retry := by decide +kernel
  have hr' : r' = (exec (handleError (.serverSide .conversation ⟨.serverError, "refused"⟩))
      (exec (run s (.say "hello")) r).2).2 := by
    simp only [r', exec_handleLine, hline]
    rfl
  rw [hline, hretry, hr']
  exact ⟨by rfl, by rfl, by rfl⟩

end Codewright.Console
