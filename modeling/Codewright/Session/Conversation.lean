import Codewright.Session.Interact
import Codewright.Settings
import Codewright.Workspace.Change
import Codewright.Workspace.Place

/-!
# Sessions

A session holds the state of a conversation and passes the user's messages on to it. It keeps a
budget of retries, which errors use up, and writes the generated files into the workspace when the
user accepts them.
-/

namespace Codewright

open Chat (Answer Event)
open Session
open Workspace (Breakage FileSystem Path)

/-- A conversation in a tab of the chat window. -/
structure Session where
  tabId : String
  root : Path
  polling : Polling := {}
  maxRepoSizeBytes : Nat := defaultMaxRepoSizeBytes
  state : Session.State
  /-- The number of errors that may still happen. -/
  retries : Nat := defaultRetries
  /-- The message that the conversation was started with. -/
  task : Option String := none
  lastMessage : Option String := none

namespace Session

/-- A session and the world it acts on. -/
structure Running (σ : Type) where
  session : Session
  world : World σ

/-- An operation on a session; what was done stays done if it fails. -/
abbrev Operation (σ α : Type) := ExceptT Error (StateM (Running σ)) α

namespace Operation

variable {σ : Type}

/-- Acts on the world. -/
def act {α : Type} (a : Action σ α) : Operation σ α := fun r =>
  let (result, world) := a.run.run r.world
  (result, { r with world })

/-- Has the state of the session handle something. -/
def handle {α : Type} (h : Handler σ α) : Operation σ α := fun r =>
  let (result, acting) := h.run.run { state := r.session.state, world := r.world }
  (result, { session := { r.session with state := acting.state }, world := acting.world })

/-- The result of an operation, which may be an error. -/
def attempt {α : Type} (o : Operation σ α) : Operation σ (Except Error α) := fun r =>
  let (result, r) := o.run.run r
  (.ok result, r)

/-- Changes the session. -/
def update (f : Session → Session) : Operation σ Unit :=
  modify fun r => { r with session := f r.session }

end Operation

variable {σ : Type}

/-- A new session, at whose tab nothing has been said yet. -/
def new (settings : Settings) (root : Path) (tabId : String) (outside : σ) (files : FileSystem) :
    Running σ :=
  let (token, tokens) := ({} : Tokens).fresh
  { session := {
      tabId, root
      polling := settings.polling
      maxRepoSizeBytes := settings.maxRepoSizeBytes
      state := { stage := .notStarted, tabId, token }
      retries := settings.retries }
    world := { outside, files, tokens } }

/-- The id of the conversation, once there is one. -/
def conversationId? (s : Session) : Option String :=
  s.state.stage.context?.map (·.conversationId)

/-- Starts the conversation, unless that has been done. -/
def preload (env : Environment σ) (message : String) : Operation σ Unit := do
  let s := (← get).session
  match s.state.stage with
  | .notStarted =>
    let id ← Operation.act (Action.call env .createConversation (.serverSide .conversation))
    let token ← Operation.act Action.newToken
    let context : Context := {
      conversationId := id, root := s.root, polling := s.polling,
      maxRepoSizeBytes := s.maxRepoSizeBytes }
    Operation.update fun s => { s with
      task := some message
      state := { stage := .awaitingTask context, tabId := s.tabId, token } }
  | _ => return ()

/-- Gives a state a new token if its token has been cancelled. -/
def renewToken : Operation σ Unit := do
  let r ← get
  if r.world.tokens.isCancelled r.session.state.token then
    let token ← Operation.act Action.newToken
    Operation.update fun s => { s with state := { s.state with token } }

/-- Has the state handle a message. The next state takes over, or else this one stays and forgets
that it was cancelled. -/
def forward (env : Environment σ) (message : Option String) : Operation σ (Option String) := do
  let tabId := (← get).session.tabId
  Operation.act (Action.emit (.progress tabId true none))
  let result ← Operation.attempt (Operation.handle (State.interact env message))
  Operation.act (Action.emit (.progress tabId false none))
  match result with
  | .error e =>
    renewToken
    throw e
  | .ok outcome =>
    Operation.act (Action.cancel (← get).session.state.token)
    Operation.update fun s => { s with state := outcome.next }
    return outcome.content

/-- Passes a message of the user on. -/
def send (env : Environment σ) (message : String) : Operation σ (Option String) := do
  Operation.update fun s => { s with lastMessage := some message }
  forward env (some message)

/-- Passes the last message on once more. -/
def retry (env : Environment σ) : Operation σ (Option String) := do
  forward env (← get).session.lastMessage

/-- Accepts the plan, so that code can be generated. -/
def acceptPlan : Operation σ Unit := do
  let s := (← get).session
  match s.state.stage with
  | .generating _ _ _ => return ()
  | .revising c _ =>
    let _ ← Operation.act (Action.ofExcept c.requireUploadId)
    let token ← Operation.act Action.newToken
    Operation.update fun s => { s with
      state := {
        stage := .generating c 0 {}, approach := s.state.approach, tabId := s.tabId, token } }
  | .notStarted => throw .conversationIdNotFound
  | _ => throw .illegalStateTransition

/-- What the input line says while code is generated. -/
def writingPlaceholder : String := "Writing code..."

/-- What the input line says when there is code. -/
def feedbackPlaceholder : String := "Provide feedback or comments"

/-- Has code generated for the plan. The user can not type in the meantime. -/
def generateCode (env : Environment σ) : Operation σ (Option String) := do
  acceptPlan
  let tabId := (← get).session.tabId
  Operation.act (Action.emit (.chatInputEnabled tabId false))
  Operation.act (Action.emit (.updatePlaceholder tabId writingPlaceholder))
  let result ← Operation.attempt (forward env none)
  Operation.act (Action.emit (.chatInputEnabled tabId true))
  Operation.act (Action.emit (.updatePlaceholder tabId feedbackPlaceholder))
  match result with
  | .ok content => return content
  | .error e => throw e

/-! ## Accepting changes -/

/-- How many files were written and deleted, and how many paths lie outside the workspace. -/
structure Accepted where
  written : Nat := 0
  deleted : Nat := 0
  skipped : Nat := 0
  deriving DecidableEq, Repr

/-- Changes the workspace. -/
def changeFiles {α : Type}
    (f : FileSystem → FileSystem × Except FileSystem.ChangeError α) : Action σ α := do
  let result ← modifyGet fun w =>
    let (files, result) := f w.files
    (result, { w with files })
  match result with
  | .ok a => return a
  | .error e => throw (.workspaceWrite e.path e.cause)

/-- The disk that a workspace lies on: which of the files that are written to it break off, by the
number of files that have been written before. -/
structure Disk where
  breakage? : (written : Nat) → Option Breakage

/-- On this disk no write breaks off. -/
def Disk.sound : Disk where
  breakage? _ := none

/-- Writes a staged file into the workspace. -/
def writeStaged (disk : Disk) (root : Path) (done : Accepted) (f : Staging.StagedFile) :
    Action σ Accepted :=
  match root.inWorkspace? f.path with
  | none => return { done with skipped := done.skipped + 1 }
  | some p => do
    changeFiles fun fs => fs.putFile (disk.breakage? done.written) p f.content.toUTF8
    return { done with written := done.written + 1 }

/-- Deletes a file from the workspace. -/
def deleteStaged (root : Path) (done : Accepted) (path : String) : Action σ Accepted :=
  match root.inWorkspace? path with
  | none => return { done with skipped := done.skipped + 1 }
  | some p => do
    if ← changeFiles fun fs => fs.dropFile p then
      return { done with deleted := done.deleted + 1 }
    else return done

/-- What is said when the changes are in the workspace. -/
def acceptedNotice : String := "Code has been updated. Would you like to work on another task?"

/-- Writes the staged files into the workspace and deletes what is to be deleted. -/
def acceptChanges (disk : Disk) : Operation σ Accepted := do
  let s := (← get).session
  let changes := s.state.stage.changes
  let written ← Operation.act (changes.files.foldlM (writeStaged disk s.root) {})
  let done ← Operation.act (changes.deleted.foldlM (deleteStaged s.root) written)
  Operation.act (Action.emit
    (.answer { kind := .answer, tabId := s.tabId, message := some acceptedNotice }))
  return done

/-! ## Errors -/

/-- The retry budget after an error. -/
def retriesAfter (retries : Nat) (e : Error) : Nat :=
  if e.isUserFacing then retries
  else if e.canRetry then retries - 1
  else 0

/-- Tells the user about an error. -/
def handleError (e : Error) : Operation σ Unit := do
  Operation.update fun s => { s with retries := retriesAfter s.retries e }
  let s := (← get).session
  let phase := s.state.stage.phase
  Operation.act (Action.emit
    (.errorMessage (e.userCopy phase s.retries) s.tabId s.retries phase))

end Session

end Codewright
