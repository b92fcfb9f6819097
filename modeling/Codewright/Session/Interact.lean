import Codewright.Markup.Sanitize
import Codewright.Session.State
import Codewright.Session.Upload
import Codewright.Text.Blank

/-!
# Handling a message

What a state does with a message of the user. If it succeeds, another state takes over; if it
fails, the state goes on with what it has become.
-/

namespace Codewright.Session

open Chat (Answer Event)
open Service (GeneratedFile)
open Staging (StagedFile)
open Workspace (FileSystem IoError Path WorkspaceFile)

/-- A message that holds this text makes files of the workspace stand in for generated ones. -/
def mockSentinel : String := "MOCK CODE"

/-- The directory these files are taken from. -/
def mockDirectory : String := "mock-data"

/-- What is shown if there is no plan. -/
def fallbackApproach : String :=
  "There has been a problem generating an approach. Please type \"CLEAR\" and start over."

/-- What is shown while code is generated. -/
def generatingNotice : String := "Generating code ..."

/-- What came of a message: the state that takes over, and what is said to the user. -/
structure Outcome where
  next : State
  content : Option String := none
  deriving DecidableEq

/-- A state that handles a message, and the world it acts on. -/
structure Acting (σ : Type) where
  state : State
  world : World σ

/-- Handles a message; what was done to the state and to the world stays done if that fails. -/
abbrev Handler (σ α : Type) := ExceptT Error (StateM (Acting σ)) α

namespace Handler

variable {σ α : Type}

/-- Acts on the world. -/
def act (a : Action σ α) : Handler σ α := fun h =>
  let (result, world) := a.run.run h.world
  (result, { h with world })

/-- Changes the state. -/
def update (f : State → State) : Handler σ Unit :=
  modify fun h => { h with state := f h.state }

/-- Has another state handle the message. -/
def delegate (s : State) (a : Handler σ α) : Handler σ α := fun h =>
  let (result, other) := a.run.run { h with state := s }
  (result, { h with world := other.world })

end Handler

/-- The message, if there is one that is not blank. -/
def userMessage : Option String → Except Error String
  | none => .error .userMessageNotFound
  | some m => if Text.isBlankText m then .error .userMessageNotFound else .ok m

/-- The plan as it is shown. -/
def approachOfPlan (plan : Option String) : String :=
  match plan with
  | none => Markup.sanitize fallbackApproach
  | some p => Markup.sanitize (if Text.isBlankText p then fallbackApproach else p)

/-- The files of the workspace that stand in for generated ones; there need not be any. -/
def mockFiles (fs : FileSystem) (root : Path) : Except IoError (List GeneratedFile) :=
  let dir := root.child (Text.bytes mockDirectory)
  if fs.isDir dir then
    (WorkspaceFile.list fs dir false).map fun found =>
      found.map fun f => ⟨f.relativePath, Text.lossy f.content.toList⟩
  else .ok []

namespace State

variable {σ : Type}

/-- Asks for a plan. -/
def requestApproach (env : Environment σ) (c : Context) (message : String) : Action σ String := do
  let uploadId ← Action.ofExcept c.requireUploadId
  let plan ← Action.call env (.generatePlan c.conversationId uploadId message)
    (.serverSide .approach)
  return approachOfPlan plan

/-- Shows a plan. -/
def announceApproach (tabId approach : String) : Action σ Unit :=
  Action.emit (.answer ⟨.answer, tabId, some approach, Chat.approachFollowUps⟩)

/-- Shows staged files. -/
def announceChanges (tabId uploadId : String) (changes : Changes) : Action σ Unit := do
  Action.emit (.ofStaged changes.files changes.deleted tabId uploadId)
  Action.emit (.answer ⟨.systemPrompt, tabId, none, Chat.codeResultFollowUps⟩)

/-- Has code generated, and shows it unless the user has cancelled. -/
def runGeneration (env : Environment σ) (s : State) (c : Context) (message : Option String) :
    Action σ Changes := do
  let uploadId ← Action.ofExcept c.requireUploadId
  let id ← Action.call env (.startCodeGeneration c.conversationId uploadId message)
    (.serverSide .codeGen)
  Action.emit (.answer { kind := .answerPart, tabId := s.tabId, message := some generatingNotice })
  let result ← Job.await env c.polling ⟨id, c.conversationId, uploadId, s.token⟩
  match result with
  | .cancelled => pure ()
  | .complete changes => announceChanges s.tabId uploadId changes
  return result.changes

/-! ## What each state does -/

/-- Asks for a plan, or for another one, and shows it. -/
def draft (env : Environment σ) (c : Context) (iteration : UInt32) (message : Option String) :
    Handler σ Outcome := do
  let message ← Handler.act (Action.ofExcept (userMessage message))
  let approach ← Handler.act (requestApproach env c message)
  Handler.update fun s => { s with approach }
  let s := (← get).state
  Handler.act (announceApproach s.tabId approach)
  let token ← Handler.act Action.newToken
  return {
    next := { stage := .revising c (iteration + 1), approach, tabId := s.tabId, token }
    content := some (approach ++ "\n") }

/-- Has code generated, which `keep` lets the state hold, and hands over to the state that waits for
feedback. -/
def generate (env : Environment σ) (c : Context) (iteration : UInt32) (message : Option String)
    (keep : Changes → Stage) : Handler σ Outcome := do
  let s := (← get).state
  let changes ← Handler.act (runGeneration env s c message)
  Handler.update fun s => { s with stage := keep changes }
  let token ← Handler.act Action.newToken
  return {
    next := {
      stage := .reviewing c (iteration + 1) changes, approach := s.approach, tabId := s.tabId
      token } }

/-- Has code generated anew with feedback of the user. -/
def regenerate (env : Environment σ) (c : Context) (iteration : UInt32) (message : Option String) :
    Handler σ Outcome := do
  let message ← Handler.act (Action.ofExcept (userMessage message))
  generate env c iteration (some message) (.regenerating c iteration)

/-- Takes files of the workspace in place of generated ones, and shows them if they can be read. -/
def mock (c : Context) (uploadId : String) : Handler σ Outcome := do
  let s := (← get).state
  match mockFiles (← get).world.files c.root with
  | .error _ => pure ()
  | .ok found =>
    let files := found.map (StagedFile.ofGenerated uploadId)
    Handler.act (Action.stage files)
    Handler.update fun s => { s with stage := .mocking c uploadId files }
    Handler.act (announceChanges s.tabId uploadId ⟨files, []⟩)
  let token ← Handler.act Action.newToken
  return { next := { stage := .drafting c 0, approach := s.approach, tabId := s.tabId, token } }

/-- Uploads the workspace and asks for a first plan. -/
def begin (env : Environment σ) (c : Context) (message : Option String) : Handler σ Outcome := do
  let _ ← Handler.act (Action.ofExcept (userMessage message))
  let uploadId ← Handler.act (uploadWorkspace env c)
  let s := (← get).state
  let token ← Handler.act (Action.childToken s.token)
  let c := c.withUploadId uploadId
  Handler.delegate { s with stage := .drafting c 0, token } (draft env c 0 message)

/-- Has files of the workspace stand in for generated ones. -/
def divert (env : Environment σ) (c : Context) : Handler σ Outcome := do
  let uploadId ← Handler.act (Action.freshId env)
  let s := (← get).state
  let token ← Handler.act (Action.childToken s.token)
  Handler.delegate { s with stage := .mocking c uploadId [], token } (mock c uploadId)

/-- Uploads the workspace anew and has code generated with feedback of the user. -/
def rework (env : Environment σ) (c : Context) (iteration : UInt32) (message : Option String) :
    Handler σ Outcome := do
  let _ ← Handler.act (Action.ofExcept (userMessage message))
  let uploadId ← Handler.act (uploadWorkspace env c)
  let s := (← get).state
  let token ← Handler.act (Action.childToken s.token)
  let c := c.withUploadId uploadId
  Handler.delegate { s with stage := .regenerating c iteration {}, token }
    (regenerate env c iteration message)

/-- Whether a message asks for files of the workspace in place of generated ones. -/
def wantsMock (message : Option String) : Bool :=
  message.any fun m => Text.occursIn mockSentinel.toList m.toList

/-- Handles a message. -/
def interact (env : Environment σ) (message : Option String) : Handler σ Outcome := do
  match (← get).state.stage with
  | .notStarted => throw .illegalStateTransition
  | .awaitingTask c => begin env c message
  | .drafting c iteration => draft env c iteration message
  | .revising c iteration =>
    if wantsMock message then divert env c else draft env c iteration message
  | .generating c iteration _ => generate env c iteration none (.generating c iteration)
  | .mocking c uploadId _ => mock c uploadId
  | .reviewing c iteration _ => rework env c iteration message
  | .regenerating c iteration _ => regenerate env c iteration message

end State

end Codewright.Session
