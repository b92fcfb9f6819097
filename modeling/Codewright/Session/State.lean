import Codewright.Session.Context
import Codewright.Session.Generation
import Codewright.Session.Token

/-!
# States of a conversation
-/

namespace Codewright.Session

open Staging (StagedFile)

/-- Where a conversation stands, and what it needs to go on from there. The number of a round has 32
bits: after the last one it starts again from zero. -/
inductive Stage where
  /-- There is no conversation yet. -/
  | notStarted
  /-- The workspace has not been uploaded yet. -/
  | awaitingTask (context : Context)
  /-- The workspace is uploaded and a plan is wanted. -/
  | drafting (context : Context) (iteration : UInt32)
  /-- There is a plan, which can be revised. -/
  | revising (context : Context) (iteration : UInt32)
  /-- The plan is accepted and code is wanted. -/
  | generating (context : Context) (iteration : UInt32) (changes : Changes)
  /-- Files of the workspace stand in for generated ones. -/
  | mocking (context : Context) (uploadId : String) (files : List StagedFile)
  /-- There is code, on which feedback can be given. -/
  | reviewing (context : Context) (iteration : UInt32) (changes : Changes)
  /-- The workspace is uploaded and code is wanted that takes feedback into account. -/
  | regenerating (context : Context) (iteration : UInt32) (changes : Changes)
  deriving DecidableEq

namespace Stage

/-- The name of a stage in logs. -/
def name : Stage → String
  | notStarted => "conversation_not_started"
  | awaitingTask _ => "prepare_refinement"
  | drafting _ _ => "refinement"
  | revising _ _ => "refinement_iteration"
  | generating _ _ _ => "code_gen"
  | mocking _ _ _ => "mock_code_gen"
  | reviewing _ _ _ => "prepare_iteration"
  | regenerating _ _ _ => "code_gen_iteration"

/-- The phase a stage belongs to. -/
def phase : Stage → Phase
  | notStarted => .init
  | awaitingTask _ | drafting _ _ | revising _ _ => .approach
  | generating _ _ _ | mocking _ _ _ | reviewing _ _ _ | regenerating _ _ _ => .codegen

/-- The context, once there is a conversation. -/
def context? : Stage → Option Context
  | notStarted => none
  | awaitingTask c | drafting c _ | revising c _ | generating c _ _ | mocking c _ _
  | reviewing c _ _ | regenerating c _ _ => some c

/-- The files and deletions of the latest round of code generation. -/
def changes : Stage → Changes
  | generating _ _ changes | reviewing _ _ changes | regenerating _ _ changes => changes
  | mocking _ _ files => ⟨files, []⟩
  | notStarted | awaitingTask _ | drafting _ _ | revising _ _ => {}

/-- The number of the round, where the user can ask for another one. -/
def iteration? : Stage → Option UInt32
  | revising _ n | reviewing _ n _ => some n
  | _ => none

end Stage

/-- The state of a conversation. -/
structure State where
  stage : Stage
  /-- The latest plan. -/
  approach : String := ""
  tabId : String
  /-- Cancelled to make the state stop what it is doing. -/
  token : Token
  deriving DecidableEq

end Codewright.Session
