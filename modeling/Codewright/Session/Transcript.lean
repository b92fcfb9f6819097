import Codewright.Session.Run

/-!
# Transcripts

What the log of a session can look like: for each thing that is done, the entries it writes, first
to last, and what comes of it, whatever the service answers and whenever the user cancels.
-/

namespace Codewright.Session.Transcript

open Service (Call JobStatus UploadSlot)
open Staging (StagedFile)
open Workspace (ArchiveFormat FileSystem Snapshot)

/-! ## Parts of an interaction -/

/-- Asks for a place to upload a snapshot. -/
abbrev slotRequest (c : Context) (s : Snapshot) : Call :=
  .createUploadUrl c.conversationId s.checksum

/-- Transfers a snapshot to such a place. -/
abbrev transfer (slot : UploadSlot) (s : Snapshot) : Call :=
  .upload slot.url s.archive s.checksum slot.kmsKeyArn

/-- The workspace is uploaded. -/
inductive Upload (format : ArchiveFormat) (c : Context) (fs : FileSystem) :
    List LogEntry → Except Error String → Prop where
  | unreadable {e : Error} : Snapshot.take format fs c.root c.maxRepoSizeBytes = .error e →
      Upload format c fs [] (.error e)
  | refused {s : Snapshot} {e : Service.Error} :
      Snapshot.take format fs c.root c.maxRepoSizeBytes = .ok s →
      Upload format c fs [.call (slotRequest c s) (.error e)] (.error (.serverSide .upload e))
  | broken {s : Snapshot} {slot : UploadSlot} {e : Service.Error} :
      Snapshot.take format fs c.root c.maxRepoSizeBytes = .ok s →
      Upload format c fs [.call (slotRequest c s) (.ok slot), .call (transfer slot s) (.error e)]
        (.error (.uploadCode e))
  | done {s : Snapshot} {slot : UploadSlot} :
      Snapshot.take format fs c.root c.maxRepoSizeBytes = .ok s →
      Upload format c fs [.call (slotRequest c s) (.ok slot), .call (transfer slot s) (.ok ())]
        (.ok slot.id)

/-- A plan is asked for. -/
inductive Plan (c : Context) (message : String) : List LogEntry → Except Error String → Prop where
  | noUpload : c.uploadId = none → Plan c message [] (.error .uploadIdNotFound)
  | refused {uploadId : String} {e : Service.Error} : c.uploadId = some uploadId →
      Plan c message [.call (.generatePlan c.conversationId uploadId message) (.error e)]
        (.error (.serverSide .approach e))
  | done {uploadId : String} {plan : Option String} : c.uploadId = some uploadId →
      Plan c message [.call (.generatePlan c.conversationId uploadId message) (.ok plan)]
        (.ok (approachOfPlan plan))

/-- A job is waited for, with at most so many questions. -/
inductive Poll (pauseMs : Nat) (job : Job) :
    Nat → List LogEntry → Except Error JobResult → Prop where
  | cancelled {n : Nat} : Poll pauseMs job n [] (.ok .cancelled)
  | timeout : Poll pauseMs job 0 [] (.error .codeGenTimeout)
  | refused {n : Nat} {e : Service.Error} :
      Poll pauseMs job (n + 1) [.call (.getCodeGeneration job.conversationId job.id) (.error e)]
        (.error (.serverSide .codeGen e))
  | pending {n : Nat} {text : String} {t : List LogEntry} {res : Except Error JobResult} :
      (JobStatus.ofText text).isPending → Poll pauseMs job n t res →
      Poll pauseMs job (n + 1)
        (.call (.getCodeGeneration job.conversationId job.id) (.ok text) :: .waited pauseMs :: t)
        res
  | failed {n : Nat} {text : String} : (JobStatus.ofText text).isFailure →
      Poll pauseMs job (n + 1) [.call (.getCodeGeneration job.conversationId job.id) (.ok text)]
        (.error .codeGenFailed)
  | unknown {n : Nat} {text raw : String} : JobStatus.ofText text = .unknown raw →
      Poll pauseMs job (n + 1) [.call (.getCodeGeneration job.conversationId job.id) (.ok text)]
        (.error (.unknownCodeGenStatus raw))
  | lost {n : Nat} {text : String} {e : Service.Error} : JobStatus.ofText text = .complete →
      Poll pauseMs job (n + 1) [.call (.getCodeGeneration job.conversationId job.id) (.ok text),
          .call (.exportResult job.conversationId) (.error e)]
        (.error (.serverSide .codeGen e))
  | complete {n : Nat} {text : String} {result : Service.Export} :
      JobStatus.ofText text = .complete →
      Poll pauseMs job (n + 1) [.call (.getCodeGeneration job.conversationId job.id) (.ok text),
          .call (.exportResult job.conversationId) (.ok result)]
        (.ok (.complete
          ⟨result.files.map (StagedFile.ofGenerated job.uploadId), result.deleted⟩))

/-- What is told when a plan has been made. -/
def planShown (tabId approach : String) : LogEntry :=
  .event (.answer ⟨.answer, tabId, some approach, Chat.approachFollowUps⟩)

/-- What is told when a job has been started. -/
def jobShown (tabId : String) : LogEntry :=
  .event (.answer { kind := .answerPart, tabId, message := some generatingNotice })

/-- What is told when files have been staged. -/
def changesShown (tabId uploadId : String) (changes : Changes) : List LogEntry :=
  [.event (.ofStaged changes.files changes.deleted tabId uploadId),
    .event (.answer ⟨.systemPrompt, tabId, none, Chat.codeResultFollowUps⟩)]

/-- A job is started for the state `s` and waited for. -/
inductive Generation (s : State) (c : Context) (message : Option String) :
    List LogEntry → Except Error Changes → Prop where
  | noUpload : c.uploadId = none → Generation s c message [] (.error .uploadIdNotFound)
  | refused {uploadId : String} {e : Service.Error} : c.uploadId = some uploadId →
      Generation s c message
        [.call (.startCodeGeneration c.conversationId uploadId message) (.error e)]
        (.error (.serverSide .codeGen e))
  | failed {uploadId id : String} {t : List LogEntry} {e : Error} : c.uploadId = some uploadId →
      Poll c.polling.pauseMs ⟨id, c.conversationId, uploadId, s.token⟩ c.polling.maxIterations t
        (.error e) →
      Generation s c message
        (.call (.startCodeGeneration c.conversationId uploadId message) (.ok id) ::
          jobShown s.tabId :: t)
        (.error e)
  | cancelled {uploadId id : String} {t : List LogEntry} : c.uploadId = some uploadId →
      Poll c.polling.pauseMs ⟨id, c.conversationId, uploadId, s.token⟩ c.polling.maxIterations t
        (.ok .cancelled) →
      Generation s c message
        (.call (.startCodeGeneration c.conversationId uploadId message) (.ok id) ::
          jobShown s.tabId :: t)
        (.ok {})
  | complete {uploadId id : String} {t : List LogEntry} {changes : Changes} :
      c.uploadId = some uploadId →
      Poll c.polling.pauseMs ⟨id, c.conversationId, uploadId, s.token⟩ c.polling.maxIterations t
        (.ok (.complete changes)) →
      Generation s c message
        (.call (.startCodeGeneration c.conversationId uploadId message) (.ok id) ::
          jobShown s.tabId :: (t ++ changesShown s.tabId uploadId changes))
        (.ok changes)

/-! ## What each state does

The state before and the state afterwards stand around the entries and the staged files. -/

/-- A plan is asked for and shown. -/
inductive Draft (s : State) (c : Context) (iteration : UInt32) (message : Option String) :
    List LogEntry → State → Except Error Outcome → Prop where
  | noMessage {e : Error} : userMessage message = .error e →
      Draft s c iteration message [] s (.error e)
  | failed {text : String} {t : List LogEntry} {e : Error} : userMessage message = .ok text →
      Plan c text t (.error e) → Draft s c iteration message t s (.error e)
  | done {text approach : String} {t : List LogEntry} (token : Token) :
      userMessage message = .ok text → Plan c text t (.ok approach) →
      Draft s c iteration message (t ++ [planShown s.tabId approach]) { s with approach }
        (.ok ⟨⟨.revising c (iteration + 1), approach, s.tabId, token⟩, some (approach ++ "\n")⟩)

/-- Code is generated, which `keep` lets the state hold. -/
inductive Round (s : State) (c : Context) (iteration : UInt32) (message : Option String)
    (keep : Changes → Stage) :
    List LogEntry → List StagedFile → State → Except Error Outcome → Prop where
  | failed {t : List LogEntry} {e : Error} : Generation s c message t (.error e) →
      Round s c iteration message keep t [] s (.error e)
  | done {t : List LogEntry} {changes : Changes} (token : Token) :
      Generation s c message t (.ok changes) →
      Round s c iteration message keep t changes.files { s with stage := keep changes }
        (.ok ⟨⟨.reviewing c (iteration + 1) changes, s.approach, s.tabId, token⟩, none⟩)

/-- Code is generated anew with feedback. -/
inductive Regeneration (s : State) (c : Context) (iteration : UInt32) (message : Option String) :
    List LogEntry → List StagedFile → State → Except Error Outcome → Prop where
  | noMessage {e : Error} : userMessage message = .error e →
      Regeneration s c iteration message [] [] s (.error e)
  | sent {text : String} {t : List LogEntry} {files : List StagedFile} {s' : State}
      {res : Except Error Outcome} : userMessage message = .ok text →
      Round s c iteration (some text) (.regenerating c iteration) t files s' res →
      Regeneration s c iteration message t files s' res

/-- Files of the workspace stand in for generated ones. -/
inductive Mock (fs : FileSystem) (s : State) (c : Context) (uploadId : String) :
    List LogEntry → List StagedFile → State → Outcome → Prop where
  | unreadable {cause : Workspace.IoError} (token : Token) :
      mockFiles fs c.root = .error cause →
      Mock fs s c uploadId [] [] s ⟨⟨.drafting c 0, s.approach, s.tabId, token⟩, none⟩
  | shown {found : List Service.GeneratedFile} {files : List StagedFile} (token : Token) :
      mockFiles fs c.root = .ok found → files = found.map (StagedFile.ofGenerated uploadId) →
      Mock fs s c uploadId (changesShown s.tabId uploadId ⟨files, []⟩) files
        { s with stage := .mocking c uploadId files }
        ⟨⟨.drafting c 0, s.approach, s.tabId, token⟩, none⟩

/-- A state handles a message. States that have another one do it for them stay as they are. -/
inductive Interaction (format : ArchiveFormat) (fs : FileSystem) (s : State)
    (message : Option String) :
    List LogEntry → List StagedFile → State → Except Error Outcome → Prop where
  | tooEarly : s.stage = .notStarted →
      Interaction format fs s message [] [] s (.error .illegalStateTransition)
  | noTask {c : Context} {e : Error} : s.stage = .awaitingTask c → userMessage message = .error e →
      Interaction format fs s message [] [] s (.error e)
  | noUpload {c : Context} {text : String} {t : List LogEntry} {e : Error} :
      s.stage = .awaitingTask c → userMessage message = .ok text → Upload format c fs t (.error e) →
      Interaction format fs s message t [] s (.error e)
  | begun {c : Context} {id : String} {t u : List LogEntry} {token : Token} {s' : State}
      {res : Except Error Outcome} : s.stage = .awaitingTask c → Upload format c fs t (.ok id) →
      Draft { s with stage := .drafting (c.withUploadId id) 0, token } (c.withUploadId id) 0
        message u s' res →
      Interaction format fs s message (t ++ u) [] s res
  | drafted {c : Context} {iteration : UInt32} {t : List LogEntry} {s' : State}
      {res : Except Error Outcome} : s.stage = .drafting c iteration →
      Draft s c iteration message t s' res → Interaction format fs s message t [] s' res
  | revised {c : Context} {iteration : UInt32} {t : List LogEntry} {s' : State}
      {res : Except Error Outcome} : s.stage = .revising c iteration →
      State.wantsMock message = false → Draft s c iteration message t s' res →
      Interaction format fs s message t [] s' res
  | diverted {c : Context} {iteration : UInt32} {uploadId : String} {t : List LogEntry}
      {files : List StagedFile} {token : Token} {s' : State} {outcome : Outcome} :
      s.stage = .revising c iteration → State.wantsMock message = true →
      Mock fs { s with stage := .mocking c uploadId [], token } c uploadId t files s' outcome →
      Interaction format fs s message t files s (.ok outcome)
  | generated {c : Context} {iteration : UInt32} {changes : Changes} {t : List LogEntry}
      {files : List StagedFile} {s' : State} {res : Except Error Outcome} :
      s.stage = .generating c iteration changes →
      Round s c iteration none (.generating c iteration) t files s' res →
      Interaction format fs s message t files s' res
  | mocked {c : Context} {uploadId : String} {old : List StagedFile} {t : List LogEntry}
      {files : List StagedFile} {s' : State} {outcome : Outcome} :
      s.stage = .mocking c uploadId old → Mock fs s c uploadId t files s' outcome →
      Interaction format fs s message t files s' (.ok outcome)
  | noFeedback {c : Context} {iteration : UInt32} {changes : Changes} {e : Error} :
      s.stage = .reviewing c iteration changes → userMessage message = .error e →
      Interaction format fs s message [] [] s (.error e)
  | noReupload {c : Context} {iteration : UInt32} {changes : Changes} {text : String}
      {t : List LogEntry} {e : Error} : s.stage = .reviewing c iteration changes →
      userMessage message = .ok text → Upload format c fs t (.error e) →
      Interaction format fs s message t [] s (.error e)
  | reworked {c : Context} {iteration : UInt32} {changes : Changes} {id : String}
      {t u : List LogEntry} {files : List StagedFile} {token : Token} {s' : State}
      {res : Except Error Outcome} : s.stage = .reviewing c iteration changes →
      Upload format c fs t (.ok id) →
      Regeneration { s with stage := .regenerating (c.withUploadId id) iteration {}, token }
        (c.withUploadId id) iteration message u files s' res →
      Interaction format fs s message (t ++ u) files s res
  | regenerated {c : Context} {iteration : UInt32} {changes : Changes} {t : List LogEntry}
      {files : List StagedFile} {s' : State} {res : Except Error Outcome} :
      s.stage = .regenerating c iteration changes →
      Regeneration s c iteration message t files s' res →
      Interaction format fs s message t files s' res

/-! ## What a session does -/

/-- A message is forwarded to the state of the session `x`. A state that fails stays, perhaps with
another token: `tokens` are the tokens afterwards. -/
inductive Forward (format : ArchiveFormat) (fs : FileSystem) (tokens : Tokens) (x : Session)
    (message : Option String) :
    List LogEntry → List StagedFile → Session → Except Error (Option String) → Prop where
  | failed {t : List LogEntry} {files : List StagedFile} {s' : State} {token : Token} {e : Error} :
      Interaction format fs x.state message t files s' (.error e) →
      token = s'.token ∨ tokens.isCancelled s'.token →
      Forward format fs tokens x message
        (.event (.progress x.tabId true none) :: (t ++ [.event (.progress x.tabId false none)]))
        files { x with state := { s' with token } } (.error e)
  | done {t : List LogEntry} {files : List StagedFile} {s' : State} {outcome : Outcome} :
      Interaction format fs x.state message t files s' (.ok outcome) →
      Forward format fs tokens x message
        (.event (.progress x.tabId true none) :: (t ++ [.event (.progress x.tabId false none)]))
        files { x with state := outcome.next } (.ok outcome.content)

/-- The plan is accepted. -/
inductive Acceptance (x : Session) : Session → Except Error Unit → Prop where
  | before {c : Context} {iteration : UInt32} {changes : Changes} :
      x.state.stage = .generating c iteration changes → Acceptance x x (.ok ())
  | now {c : Context} {iteration : UInt32} {uploadId : String} (token : Token) :
      x.state.stage = .revising c iteration → c.uploadId = some uploadId →
      Acceptance x
        { x with state := ⟨.generating c 0 {}, x.state.approach, x.tabId, token⟩ } (.ok ())
  | noUpload {c : Context} {iteration : UInt32} : x.state.stage = .revising c iteration →
      c.uploadId = none → Acceptance x x (.error .uploadIdNotFound)
  | tooEarly : x.state.stage = .notStarted → Acceptance x x (.error .conversationIdNotFound)
  | noPlan {c : Context} : x.state.stage.context? = some c →
      Acceptance x x (.error .illegalStateTransition)

/-- A move is carried out with the session `x`. -/
inductive Step (format : ArchiveFormat) (fs : FileSystem) (tokens : Tokens) (x : Session) :
    Move → List LogEntry → List StagedFile → Session → Except Error Reply → Prop where
  | startedBefore {message : String} : x.state.stage ≠ .notStarted →
      Step format fs tokens x (.preload message) [] [] x (.ok .done)
  | notStarted {message : String} {e : Service.Error} : x.state.stage = .notStarted →
      Step format fs tokens x (.preload message) [.call .createConversation (.error e)] [] x
        (.error (.serverSide .conversation e))
  | started {message id : String} (token : Token) : x.state.stage = .notStarted →
      Step format fs tokens x (.preload message) [.call .createConversation (.ok id)] []
        { x with
          task := some message
          state := ⟨.awaitingTask ⟨id, none, x.root, x.polling, x.maxRepoSizeBytes⟩, "", x.tabId,
            token⟩ }
        (.ok .done)
  | sent {message : String} {t : List LogEntry} {files : List StagedFile} {x' : Session}
      {res : Except Error (Option String)} :
      Forward format fs tokens { x with lastMessage := some message } (some message) t files x'
        res →
      Step format fs tokens x (.send message) t files x' (res.map .content)
  | retried {t : List LogEntry} {files : List StagedFile} {x' : Session}
      {res : Except Error (Option String)} :
      Forward format fs tokens x x.lastMessage t files x' res →
      Step format fs tokens x .retry t files x' (res.map .content)
  | accepted {x' : Session} {res : Except Error Unit} : Acceptance x x' res →
      Step format fs tokens x .acceptPlan [] [] x' (res.map fun _ => .done)
  | notAccepted {x' : Session} {e : Error} : Acceptance x x' (.error e) →
      Step format fs tokens x .generateCode [] [] x' (.error e)
  | generated {x₁ x' : Session} {t : List LogEntry} {files : List StagedFile}
      {res : Except Error (Option String)} : Acceptance x x₁ (.ok ()) →
      Forward format fs tokens x₁ none t files x' res →
      Step format fs tokens x .generateCode
        (.event (.chatInputEnabled x₁.tabId false) ::
          .event (.updatePlaceholder x₁.tabId writingPlaceholder) ::
          (t ++ [.event (.chatInputEnabled x₁.tabId true),
            .event (.updatePlaceholder x₁.tabId feedbackPlaceholder)]))
        files x' (res.map .content)
  | notWritten {disk : Disk} {path : Workspace.Path} {cause : Workspace.IoError} :
      Step format fs tokens x (.acceptChanges disk) [] [] x (.error (.workspaceWrite path cause))
  | written {disk : Disk} {a : Accepted} :
      Step format fs tokens x (.acceptChanges disk)
        [.event (.answer
          { kind := .answer, tabId := x.tabId, message := some acceptedNotice })] [] x
        (.ok (.accepted a))
  | handled {e : Error} :
      Step format fs tokens x (.handleError e)
        [.event (.errorMessage
          (e.userCopy x.state.stage.phase (retriesAfter x.retries e)) x.tabId
          (retriesAfter x.retries e) x.state.stage.phase)] []
        { x with retries := retriesAfter x.retries e } (.ok .done)
  | cancelled {t : Token} : Step format fs tokens x (.cancel t) [] [] x (.ok .done)
  | edited {files : FileSystem} : Step format fs tokens x (.edit files) [] [] x (.ok .done)

end Codewright.Session.Transcript
