import Codewright.Session.Context
import Codewright.Session.World
import Codewright.Workspace.Snapshot

/-!
# Uploading the workspace
-/

namespace Codewright.Session

open Workspace (Snapshot)

/-- Uploads a snapshot of the workspace; the result is the id of the upload. -/
def uploadWorkspace {σ : Type} (env : Environment σ) (c : Context) : Action σ String := do
  let snapshot ← Action.ofExcept
    (Snapshot.take env.format (← get).files c.root c.maxRepoSizeBytes)
  let slot ← Action.call env (.createUploadUrl c.conversationId snapshot.checksum)
    (.serverSide .upload)
  Action.call env (.upload slot.url snapshot.archive snapshot.checksum slot.kmsKeyArn) .uploadCode
  return slot.id

end Codewright.Session
