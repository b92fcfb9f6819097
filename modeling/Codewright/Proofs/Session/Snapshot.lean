import Mathlib
import Codewright.Proofs.Session.Execution
import Codewright.Session.Run
import Codewright.Workspace.Zip

/-!
# Messages with a snapshot

Once a snapshot has been taken, an upload consists of its calls alone. What a session does with a
message can then be carried out without looking at the workspace again.
-/

namespace Codewright.Session

open Transcript
open Workspace (FileSystem Path Snapshot WorkspaceFile Zip.format Zip.pack Zip.write)

variable {σ : Type} {env : Environment σ} {message : Option String}

/-! ## Uploads -/

/-- Uploads a snapshot. -/
def uploadSnapshot (env : Environment σ) (c : Context) (s : Snapshot) : Action σ String := do
  let slot ← Action.call env (slotRequest c s) (.serverSide .upload)
  Action.call env (transfer slot s) .uploadCode
  return slot.id

theorem exec_uploadWorkspace_of_error {c : Context} {w : World σ} {e : Error}
    (h : Snapshot.take env.format w.files c.root c.maxRepoSizeBytes = .error e) :
    exec (uploadWorkspace env c) w = (.error e, w) := by
  simp only [uploadWorkspace, exec_bind, exec_get, exec_ofExcept, h]

theorem exec_uploadWorkspace_of_ok {c : Context} {w : World σ} {s : Snapshot}
    (h : Snapshot.take env.format w.files c.root c.maxRepoSizeBytes = .ok s) :
    exec (uploadWorkspace env c) w = exec (uploadSnapshot env c s) w := by
  simp only [uploadWorkspace, uploadSnapshot, exec_bind, exec_get, exec_ofExcept, h]

/-! ## Messages -/

/-- Handles a message as a session does, but uploads in the way given. -/
def interactWith (upload : Context → Action σ String) (env : Environment σ)
    (message : Option String) : Handler σ Outcome := do
  let s := (← get).state
  match s.stage with
  | .awaitingTask c => do
    let _ ← Handler.act (Action.ofExcept (userMessage message))
    let uploadId ← Handler.act (upload c)
    let s := (← get).state
    let token ← Handler.act (Action.childToken s.token)
    let c := c.withUploadId uploadId
    Handler.delegate { s with stage := .drafting c 0, token } (State.draft env c 0 message)
  | .reviewing c iteration _ => do
    let _ ← Handler.act (Action.ofExcept (userMessage message))
    let uploadId ← Handler.act (upload c)
    let s := (← get).state
    let token ← Handler.act (Action.childToken s.token)
    let c := c.withUploadId uploadId
    Handler.delegate { s with stage := .regenerating c iteration {}, token }
      (State.regenerate env c iteration message)
  | _ => State.interact env message

/-- A message is handled in the same way whatever carries out the upload, if the outcome of the
upload is the same. -/
theorem exec_interact_of_upload {upload : Context → Action σ String} {s : State} {w : World σ}
    (h : ∀ c, s.stage.context? = some c → exec (uploadWorkspace env c) w = exec (upload c) w) :
    exec (State.interact env message) ⟨s, w⟩ = exec (interactWith upload env message) ⟨s, w⟩ := by
  cases hs : s.stage with
  | awaitingTask c | reviewing c iteration changes =>
      have hc := h c (by rw [hs]; rfl)
      simp only [State.interact, interactWith, hs, State.begin, State.rework, exec_bind, exec_get,
        Handler.exec_act, exec_ofExcept]
      cases userMessage message with
      | error => rfl
      | ok text => simp only [hc]
  | _ => simp only [State.interact, interactWith, hs, exec_bind, exec_get]

theorem exec_interact_of_snapshot {s : State} {w : World σ} {c : Context} {snapshot : Snapshot}
    (hc : s.stage.context? = some c)
    (h : Snapshot.take env.format w.files c.root c.maxRepoSizeBytes = .ok snapshot) :
    exec (State.interact env message) ⟨s, w⟩ =
      exec (interactWith (fun c => uploadSnapshot env c snapshot) env message) ⟨s, w⟩ := by
  refine exec_interact_of_upload fun c' hc' => ?_
  obtain rfl := Option.some.inj (hc.symm.trans hc')
  exact exec_uploadWorkspace_of_ok h

/-- Passes a message on as a session does, but handles it in the way given. -/
def forwardWith (handler : Handler σ Outcome) : Operation σ (Option String) := do
  let tabId := (← get).session.tabId
  Operation.act (Action.emit (.progress tabId true none))
  let result ← Operation.attempt (Operation.handle handler)
  Operation.act (Action.emit (.progress tabId false none))
  match result with
  | .error e =>
    renewToken
    throw e
  | .ok outcome =>
    Operation.act (Action.cancel (← get).session.state.token)
    Operation.update fun s => { s with state := outcome.next }
    return outcome.content

theorem forward_eq : forward env message = forwardWith (State.interact env message) := rfl

/-- What a session does with a message, after a snapshot of the workspace has been taken. -/
def forwardSnapshot (env : Environment σ) (s : Snapshot) (message : Option String) :
    Operation σ (Option String) :=
  forwardWith (interactWith (fun c => uploadSnapshot env c s) env message)

theorem exec_forward_of_snapshot {r : Running σ} {c : Context} {s : Snapshot}
    (hc : r.session.state.stage.context? = some c)
    (hs : Snapshot.take env.format r.world.files c.root c.maxRepoSizeBytes = .ok s) :
    exec (forward env message) r = exec (forwardSnapshot env s message) r := by
  have h : ∀ e, exec (State.interact env message)
      ⟨r.session.state, { r.world with log := e :: r.world.log }⟩ =
        exec (interactWith (fun c => uploadSnapshot env c s) env message)
          ⟨r.session.state, { r.world with log := e :: r.world.log }⟩ :=
    fun _ => exec_interact_of_snapshot hc hs
  simp only [forward_eq, forwardSnapshot, forwardWith, exec_bind, exec_get, Operation.exec_act,
    Operation.exec_attempt, Operation.exec_handle, exec_emit, h]

theorem exec_send_of_snapshot (env : Environment σ) {r : Running σ} {c : Context} {s : Snapshot}
    (hc : r.session.state.stage.context? = some c)
    (hs : Snapshot.take env.format r.world.files c.root c.maxRepoSizeBytes = .ok s)
    (message : String) :
    exec (send env message) r =
      exec (forwardSnapshot env s (some message))
        { r with session := { r.session with lastMessage := some message } } :=
  (exec_send env message r).trans (exec_forward_of_snapshot hc hs)

theorem perform_send_of_snapshot (env : Environment σ) {r : Running σ} {c : Context} {s : Snapshot}
    (hc : r.session.state.stage.context? = some c)
    (hs : Snapshot.take env.format r.world.files c.root c.maxRepoSizeBytes = .ok s)
    (message : String) :
    exec (Move.perform env (.send message)) r =
      exec (do return .content (← forwardSnapshot env s (some message)))
        { r with session := { r.session with lastMessage := some message } } := by
  rw [Move.perform, exec_return, exec_return, exec_send_of_snapshot env hc hs]

/-! ## A workspace and a service -/

/-- The root of a workspace. -/
def sampleRoot : Path := ⟨[0x2F, 0x77], []⟩

/-- A workspace of one file. -/
def sample : FileSystem :=
  .ofList [] [([[0x77]], .dir), ([[0x77], [0x61]], .file "1".toUTF8)]

/-- The snapshot of this workspace. -/
def sampleSnapshot : Snapshot where
  archive := Zip.write [("a", "1".toUTF8)]
  totalBytes := 1
  fileCount := 1

theorem list_sample :
    WorkspaceFile.list sample sampleRoot true =
      .ok [⟨"a", ⟨[0x2F, 0x77], [[0x61]]⟩, "1".toUTF8⟩] := by
  cbv

theorem take_sample :
    Snapshot.take Zip.format sample sampleRoot defaultMaxRepoSizeBytes = .ok sampleSnapshot := by
  have hpack : Zip.pack [("a", "1".toUTF8)] = .ok (Zip.write [("a", "1".toUTF8)]) := by
    rw [Zip.pack, if_neg (by decide), if_neg (by decide +kernel)]
  simp only [Snapshot.take, list_sample, Zip.format, List.map_cons, List.map_nil, hpack]
  rfl

/-- A service that does what it is asked to, but for the start of a job and what comes of one, which
are given. So is the plan that it makes. -/
def obliging (start : Except Service.Error String) (result : Service.Export)
    (plan : String := "plan") : Environment Unit where
  serve _ c :=
    { outside := ()
      result :=
        match c with
        | .createConversation => .ok "conversation"
        | .createUploadUrl _ _ => .ok ⟨"slot", "place", none⟩
        | .upload _ _ _ _ => .ok ()
        | .generatePlan _ _ _ => .ok (some plan)
        | .startCodeGeneration _ _ _ => start
        | .getCodeGeneration _ _ => .ok "Complete"
        | .exportResult _ => .ok result }
  wait _ _ := ([], ())
  freshId _ := ("fresh", ())
  format := Zip.format

/-- A session in which there is a plan. -/
def planned (env : Environment Unit) : Running Unit :=
  run env (Session.new {} sampleRoot "tab" () sample) [.preload "task", .send "message"]

/-- The conversation that this service starts. -/
def sampleContext : Context where
  conversationId := "conversation"
  root := sampleRoot

theorem planned_obliging {start : Except Service.Error String} {result : Service.Export}
    {plan : String} :
    planned (obliging start result plan) =
      { session :=
          { tabId := "tab", root := sampleRoot
            state :=
              { stage := .revising (sampleContext.withUploadId "place") 1
                approach := approachOfPlan (some plan), tabId := "tab", token := ⟨3, []⟩ }
            task := some "task", lastMessage := some "message" }
        world :=
          { outside := (), files := sample, tokens := ⟨4, [1]⟩
            log :=
              [.event (.progress "tab" false none),
                planShown "tab" (approachOfPlan (some plan)),
                .call (.generatePlan "conversation" "place" "message") (.ok (some plan)),
                .call (transfer ⟨"slot", "place", none⟩ sampleSnapshot) (.ok ()),
                .call (slotRequest sampleContext sampleSnapshot) (.ok ⟨"slot", "place", none⟩),
                .event (.progress "tab" true none),
                .call .createConversation (.ok "conversation")] } } := by
  have hsend := perform_send_of_snapshot (obliging start result plan) (c := sampleContext)
    (r := run (obliging start result plan) (Session.new {} sampleRoot "tab" () sample)
      [.preload "task"]) rfl take_sample "message"
  exact congrArg Prod.snd hsend

end Codewright.Session
