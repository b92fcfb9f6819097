/-!
# Phases of a conversation
-/

namespace Codewright.Session

/-- How far a conversation is, as far as the wording of messages depends on it. -/
inductive Phase where
  /-- Nothing has been asked yet. -/
  | init
  /-- The plan is being worked out. -/
  | approach
  /-- Code is being generated. -/
  | codegen
  deriving DecidableEq, Repr

/-- The name of a phase in messages. -/
def Phase.name : Phase → String
  | init => "Init"
  | approach => "Approach"
  | codegen => "Codegen"

end Codewright.Session
