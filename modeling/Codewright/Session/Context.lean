import Codewright.Session.Error
import Codewright.Session.Polling
import Codewright.Text.Quoted

/-!
# The context of a conversation

What every state of a conversation knows once the service has given it an id.
-/

namespace Codewright.Session

/-- The conversation, its latest upload and the limits it works under. -/
structure Context where
  conversationId : String
  uploadId : Option String := none
  root : Workspace.Path
  polling : Polling := {}
  maxRepoSizeBytes : Nat := defaultMaxRepoSizeBytes
  deriving DecidableEq, Repr

namespace Context

/-- The same context after another upload. -/
def withUploadId (c : Context) (id : String) : Context :=
  { c with uploadId := some id }

/-- The latest upload, which the service asks for with every request for a plan or for code. -/
def requireUploadId (c : Context) : Except Error String :=
  match c.uploadId with
  | none => .error .uploadIdNotFound
  | some id => .ok id

/-- The last of the decimal places of `n` thousandths that is not zero, and those before it. -/
def thousandths (n : Nat) : String :=
  let digits := [n / 100 % 10, n / 10 % 10, n % 10]
  let shown := (digits.reverse.dropWhile (· = 0)).reverse
  if shown = [] then "" else "." ++ String.join (shown.map toString)

/-- A time span in the largest unit that fits. -/
def describeSpan (ms : Nat) : String :=
  if ms = 0 then "0ns"
  else if ms < 1000 then s!"{ms}ms"
  else toString (ms / 1000) ++ thousandths (ms % 1000) ++ "s"

/-- The context in a form for logs. -/
def describe (c : Context) : String :=
  let uploadId :=
    match c.uploadId with
    | none => "None"
    | some id => "Some(" ++ Text.quote id ++ ")"
  "SessionStateConfig \x7b conversation_id: " ++ Text.quote c.conversationId
    ++ ", upload_id: " ++ uploadId
    ++ ", workspace_root: " ++ Text.quote c.root.display
    ++ ", polling: PollingConfig \x7b interval: " ++ describeSpan c.polling.intervalMs
    ++ ", max_iterations: " ++ toString c.polling.maxIterations ++ " \x7d, .. \x7d"

end Context

end Codewright.Session
