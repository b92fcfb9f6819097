import Codewright.Service.JobStatus
import Codewright.Session.Context
import Codewright.Session.World

/-!
# Code generation

A job of the service is asked for its status until it ends, the user cancels it or the limit is
reached. The files of a complete job are staged.
-/

namespace Codewright.Session

open Service (JobStatus)
open Staging (StagedFile)

/-- Files to write and paths to delete. -/
structure Changes where
  files : List StagedFile := []
  deleted : List String := []
  deriving DecidableEq, Repr, Inhabited

namespace Changes

/-- Nothing is changed. -/
def isEmpty (c : Changes) : Bool :=
  c.files.isEmpty && c.deleted.isEmpty

/-- The paths of the staged files. -/
def stagedPaths (c : Changes) : List String :=
  c.files.map (·.uri.path)

end Changes

/-- What came of waiting for a job. -/
inductive JobResult where
  /-- The job has ended, and these changes are staged. -/
  | complete (changes : Changes)
  /-- The user did not want to wait any longer. -/
  | cancelled
  deriving DecidableEq

/-- The changes that came of a job. -/
def JobResult.changes : JobResult → Changes
  | complete changes => changes
  | cancelled => {}

/-- A job and the upload that it works on. -/
structure Job where
  id : String
  conversationId : String
  uploadId : String
  /-- Cancelled when the user does not want to wait any longer. -/
  token : Token

namespace Job

variable {σ : Type}

/-- Fetches the files of a complete job and stages them. -/
def collect (env : Environment σ) (job : Job) : Action σ Changes := do
  let result ← Action.call env (.exportResult job.conversationId) (.serverSide .codeGen)
  let files := result.files.map (StagedFile.ofGenerated job.uploadId)
  Action.stage files
  return ⟨files, result.deleted⟩

/-- Asks for the status at most `n` times, and waits after each answer that the job still runs.
Cancellation is noticed before a question. -/
def poll (env : Environment σ) (pauseMs : Nat) (job : Job) : Nat → Action σ JobResult
  | 0 => do
    if ← Action.isCancelled job.token then return .cancelled
    else throw .codeGenTimeout
  | n + 1 => do
    if ← Action.isCancelled job.token then return .cancelled
    let text ← Action.call env (.getCodeGeneration job.conversationId job.id) (.serverSide .codeGen)
    match JobStatus.ofText text with
    | .inProgress | .predictReady =>
      Action.wait env pauseMs
      poll env pauseMs job n
    | .failed | .predictFailed | .debateFailed => throw .codeGenFailed
    | .unknown text => throw (.unknownCodeGenStatus text)
    | .complete => return .complete (← collect env job)

/-- Waits for a job within the limits. -/
def await (env : Environment σ) (polling : Polling) (job : Job) : Action σ JobResult :=
  poll env polling.pauseMs job polling.maxIterations

end Job

end Codewright.Session
