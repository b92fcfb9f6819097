/-!
# Status of a code generation job
-/

namespace Codewright.Service

/-- What the service says about a running job. -/
inductive JobStatus where
  | complete
  | inProgress
  | predictReady
  | predictFailed
  | debateFailed
  | failed
  /-- A status this program does not know, in the service's words. -/
  | unknown (text : String)
  deriving DecidableEq, Repr

namespace JobStatus

/-- Reads a status; upper and lower case differ. -/
def ofText (s : String) : JobStatus :=
  if s = "Complete" then complete
  else if s = "InProgress" then inProgress
  else if s = "predict-ready" then predictReady
  else if s = "predict-failed" then predictFailed
  else if s = "debate-failed" then debateFailed
  else if s = "Failed" then failed
  else unknown s

/-- The job still runs. -/
def isPending : JobStatus → Bool
  | inProgress | predictReady => true
  | _ => false

/-- The job has ended without a result. -/
def isFailure : JobStatus → Bool
  | failed | predictFailed | debateFailed => true
  | _ => false

end JobStatus

end Codewright.Service
