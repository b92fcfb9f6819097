import Codewright.Service.Error
import Codewright.Session.Phase
import Codewright.Workspace.IoError
import Codewright.Workspace.Path

/-!
# Errors of a session

What can go wrong while a message is handled, what the user is told about it, and whether trying
again makes sense.
-/

namespace Codewright.Session

open Workspace (IoError)

/-- The kind of call during which the service failed. -/
inductive ServerOperation where
  | conversation
  | upload
  | approach
  | codeGen
  deriving DecidableEq, Repr

/-- Why a message could not be handled. -/
inductive Error where
  /-- The message is missing or blank. -/
  | userMessageNotFound
  | illegalStateTransition
  | conversationIdNotFound
  | uploadIdNotFound
  /-- The workspace cannot be read or archived. -/
  | prepareRepoFailed (cause : IoError)
  | contentLength (size limit : Nat)
  /-- The archive was not transferred. -/
  | uploadCode (cause : Service.Error)
  | serverSide (operation : ServerOperation) (cause : Service.Error)
  | codeGenFailed
  | unknownCodeGenStatus (status : String)
  | codeGenTimeout
  | workspaceWrite (path : Workspace.Path) (cause : IoError)
  deriving DecidableEq, Repr

/-- The code of an error in an operation. -/
def ServerOperation.code : ServerOperation → String
  | conversation => "UnhandledConversationServerSideError"
  | upload => "UnhandledUploadServerSideError"
  | approach => "UnhandledApproachServerSideError"
  | codeGen => "UnhandledCodeGenServerSideError"

namespace Error

/-- The name of an error in logs. -/
def code : Error → String
  | userMessageNotFound => "UserMessageNotFound"
  | illegalStateTransition => "IllegalStateTransition"
  | conversationIdNotFound => "ConversationIdNotFound"
  | uploadIdNotFound => "UploadIdNotFound"
  | prepareRepoFailed _ => "PrepareRepoFailed"
  | contentLength _ _ => "ContentLengthError"
  | uploadCode _ => "UploadCodeError"
  | serverSide operation _ => operation.code
  | codeGenFailed => "CodeGenFailed"
  | unknownCodeGenStatus _ => "UnknownCodeGenError"
  | codeGenTimeout => "CodeGenTimeout"
  | workspaceWrite _ _ => "WorkspaceWriteError"

/-- The message of an error. -/
def message : Error → String
  | userMessageNotFound =>
    "It looks like you didn't provide an input. Please enter your message in the text bar."
  | illegalStateTransition => "Illegal transition between states, restart the conversation"
  | conversationIdNotFound => "Conversation id must exist before starting code generation"
  | uploadIdNotFound => "Upload id has to be initialized before it's read"
  | prepareRepoFailed _ =>
    "Sorry, I ran into an issue while trying to upload your code. Please try again."
  | contentLength size limit =>
    "The project you have selected for source code is too large to use as context "
      ++ s!"({size} bytes, limit {limit} bytes). Please select a different folder to use."
  | uploadCode _ =>
    "I'm sorry, I couldn't upload your workspace artifacts to help you with this task. "
      ++ "Please try again."
  | serverSide _ cause => "Server side error: " ++ cause.message
  | codeGenFailed => "Code generation failed"
  | unknownCodeGenStatus status => "Unknown status: " ++ status
  | codeGenTimeout => "Code generation did not finish within the expected time"
  | workspaceWrite path cause => "Failed to write " ++ path.display ++ ": " ++ cause.message

/-- The message of the error behind an error. -/
def causeMessage? : Error → Option String
  | prepareRepoFailed cause => some cause.message
  | uploadCode cause => some cause.message
  | serverSide _ cause => some cause.message
  | workspaceWrite _ cause => some cause.message
  | _ => none

/-- Whether the request may succeed when it is repeated. -/
def canRetry : Error → Bool
  | serverSide _ cause => cause.kind.isRetryable
  | _ => true

/-- Whether the message is meant for the user, who can do something about it. -/
def isUserFacing : Error → Bool
  | userMessageNotFound | illegalStateTransition | prepareRepoFailed _ | contentLength _ _
  | uploadCode _ => true
  | _ => false

/-- What the user is told when the retry budget is used up. -/
def retriesExhausted : String :=
  "I'm sorry, I ran into an issue and can't continue with this conversation. "
    ++ "Please start a new one."

/-- What the user is told about an error whose message is not for the user. -/
def apology : Phase → String
  | .approach =>
    "I'm sorry, I'm having technical difficulties and couldn't generate an approach. "
      ++ "Please try again."
  | .codegen =>
    "I'm sorry, I'm having technical difficulties and couldn't generate code. Please try again."
  | .init => "I'm sorry, I ran into an issue processing your request. Please try again."

/-- What the user is told about an error with this many retries left. -/
def userCopy (e : Error) (phase : Phase) (retriesLeft : Nat) : String :=
  if e.isUserFacing then e.message
  else if retriesLeft = 0 then retriesExhausted
  else apology phase

end Error

end Codewright.Session
