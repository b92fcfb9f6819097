import Codewright.Json.Basic
import Codewright.Session.Phase
import Codewright.Staging

/-!
# Events for the chat window

Everything the user gets to see is an event. Each event is written as one line of JSON, its kind
first.
-/

namespace Codewright.Chat

open Session (Phase)

/-- How an answer is shown. -/
inductive AnswerKind where
  | answer
  | answerPart
  | answerStream
  | systemPrompt
  deriving DecidableEq, Repr

/-- What happens when the user picks a follow-up. -/
inductive FollowUpKind where
  | generateCode
  | acceptCode
  | provideFeedbackAndRegenerateCode
  | newPlan
  | retry
  deriving DecidableEq, Repr

/-- How a follow-up is coloured. -/
inductive FollowUpStatus where
  | success
  | info
  | warning
  deriving DecidableEq, Repr

/-- Something the user can do next, offered as a button. -/
structure FollowUp where
  text : String
  kind : FollowUpKind
  status : Option FollowUpStatus := none
  deriving DecidableEq, Repr

/-- A message of the assistant. -/
structure Answer where
  kind : AnswerKind
  tabId : String
  message : Option String := none
  followUps : List FollowUp := []
  deriving DecidableEq, Repr

/-- An event for the chat window. -/
inductive Event where
  | answer (a : Answer)
  | errorMessage (message tabId : String) (retries : Nat) (phase : Phase)
  | codeResult (filePaths deletedFiles : List String) (tabId uploadId : String)
  | progress (tabId : String) (inProgress : Bool) (message : Option String)
  | updatePlaceholder (tabId text : String)
  | chatInputEnabled (tabId : String) (enabled : Bool)
  deriving DecidableEq, Repr

/-- What can follow a plan. -/
def approachFollowUps : List FollowUp :=
  [⟨"Write Code", .generateCode, some .info⟩, ⟨"Discuss a new plan", .newPlan, none⟩]

/-- What can follow generated code. -/
def codeResultFollowUps : List FollowUp :=
  [⟨"Accept changes", .acceptCode, some .success⟩,
    ⟨"Provide feedback and regenerate", .provideFeedbackAndRegenerateCode, some .info⟩]

/-! ## The written form -/

/-- The word for a kind of answer. -/
def AnswerKind.name : AnswerKind → String
  | answer => "answer"
  | answerPart => "answer-part"
  | answerStream => "answer-stream"
  | systemPrompt => "system-prompt"

/-- The word for a kind of follow-up. -/
def FollowUpKind.name : FollowUpKind → String
  | generateCode => "generate-code"
  | acceptCode => "accept-code"
  | provideFeedbackAndRegenerateCode => "provide-feedback-and-regenerate-code"
  | newPlan => "new-plan"
  | retry => "retry"

/-- The word for the status of a follow-up. -/
def FollowUpStatus.name : FollowUpStatus → String
  | success => "success"
  | info => "info"
  | warning => "warning"

/-- The written form of a follow-up; a status that is not there is left out. -/
def FollowUp.toJson (f : FollowUp) : Json :=
  .record (("pillText", .text f.text) :: ("type", .text f.kind.name) ::
    match f.status with
    | none => []
    | some s => [("status", .text s.name)])

/-- The written form of an answer. -/
def Answer.toJson (a : Answer) : Json :=
  .record (("message", .ofText? a.message) :: ("type", .text a.kind.name) ::
    ("tabID", .text a.tabId) ::
    match a.followUps with
    | [] => []
    | fs => [("followUps", .list (fs.map FollowUp.toJson))])

namespace Event

/-- The written form of an event. -/
def toJson : Event → Json
  | answer a => .record [("type", .text "answer"), ("answer", a.toJson)]
  | errorMessage message tabId retries phase =>
    .record [("type", .text "error_message"), ("message", .text message), ("tab_id", .text tabId),
      ("retries", .number retries), ("phase", .text phase.name)]
  | codeResult filePaths deletedFiles tabId uploadId =>
    .record [("type", .text "code_result"), ("file_paths", .list (filePaths.map .text)),
      ("deleted_files", .list (deletedFiles.map .text)), ("tab_id", .text tabId),
      ("upload_id", .text uploadId)]
  | progress tabId inProgress message =>
    .record [("type", .text "async_event_progress"), ("tab_id", .text tabId),
      ("in_progress", .bool inProgress), ("message", .ofText? message)]
  | updatePlaceholder tabId text =>
    .record [("type", .text "update_placeholder"), ("tab_id", .text tabId), ("text", .text text)]
  | chatInputEnabled tabId enabled =>
    .record [("type", .text "chat_input_enabled"), ("tab_id", .text tabId),
      ("enabled", .bool enabled)]

/-- The event as a line of JSON. -/
def line (e : Event) : String :=
  e.toJson.render

/-- The event that announces staged files and deletions. -/
def ofStaged (files : List Staging.StagedFile) (deleted : List String) (tabId uploadId : String) :
    Event :=
  codeResult (files.map (·.path)) deleted tabId uploadId

end Event

end Codewright.Chat
