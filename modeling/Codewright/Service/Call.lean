import Codewright.Service.Error
import Codewright.Service.Message

/-!
# Calls to the service

The seven things this program asks of the service, and the type of the answer to each.
-/

namespace Codewright.Service

/-- A call to the service. -/
inductive Call where
  | createConversation
  /-- Asks for a place to upload an archive with this checksum. -/
  | createUploadUrl (conversationId checksum : String)
  /-- Transfers an archive to such a place. -/
  | upload (url : String) (content : ByteArray) (checksum : String) (kmsKeyArn : Option String)
  | generatePlan (conversationId uploadId message : String)
  | startCodeGeneration (conversationId uploadId : String) (message : Option String)
  | getCodeGeneration (conversationId codeGenerationId : String)
  | exportResult (conversationId : String)

/-- What the service answers to a call that succeeds. -/
abbrev Call.Answer : Call → Type
  | createConversation => String
  | createUploadUrl _ _ => UploadSlot
  | upload _ _ _ _ => Unit
  | generatePlan _ _ _ => Option String
  | startCodeGeneration _ _ _ => String
  | getCodeGeneration _ _ => String
  | exportResult _ => Export

end Codewright.Service
