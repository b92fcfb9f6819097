import Codewright.Json.Decode

/-!
# Messages of the code generation service

What is sent to the service and what it answers. Every message has a written form and a reader of
that form; a reader also takes the members in another order, or as an array.
-/

namespace Codewright

/-- A type of message that travels as JSON. -/
class Message (α : Type) where
  toJson : α → Json
  reader : Json.Reader
  ofJson? : Json → Option α

namespace Message

variable {α : Type} [Message α]

/-- The written form of a message. -/
def encode (m : α) : String :=
  (toJson m).render

/-- Reads a message from symbols. -/
def decodeSymbols (s : List Text.Symbol) : Except Json.Fault α :=
  match Json.readWhole (reader α) s with
  | .error f => .error f
  | .ok j =>
    match ofJson? j with
    | none => .error .mismatch
    | some m => .ok m

/-- Reads a message from its written form. -/
def decode (s : String) : Except Json.Fault α :=
  decodeSymbols (s.toList.map some)

end Message

namespace Service

open Json (Member readText readNullableText readList readRecord)

/-- A member that has to occur. -/
def required (name : String) (read : Json.Reader) : Member := ⟨name, read, none⟩

/-- A file as the service writes it. -/
structure GeneratedFile where
  path : String
  content : String
  deriving DecidableEq, Repr, Inhabited

/-- The service has started a conversation. -/
structure Conversation where
  id : String
  deriving DecidableEq, Repr

/-- Asks for a place to upload an archive with this checksum. -/
structure UploadRequest where
  checksum : String
  deriving DecidableEq, Repr

/-- Where to upload an archive, and under which key it will be encrypted. -/
structure UploadSlot where
  url : String
  id : String
  kmsKeyArn : Option String
  deriving DecidableEq, Repr, Inhabited

/-- Asks for a plan for an uploaded workspace. -/
structure PlanRequest where
  uploadId : String
  message : String
  deriving DecidableEq, Repr

/-- A plan, if the service has one. -/
structure Plan where
  text : Option String
  deriving DecidableEq, Repr

/-- Asks for code, with feedback on earlier code if there is any. -/
structure GenerationRequest where
  uploadId : String
  message : Option String
  deriving DecidableEq, Repr

/-- Code generation has started. -/
structure Generation where
  id : String
  deriving DecidableEq, Repr

/-- How far code generation is, in the service's words. -/
structure GenerationStatus where
  status : String
  deriving DecidableEq, Repr

/-- The files that were generated and the paths that are to be deleted. -/
structure Export where
  files : List GeneratedFile
  deleted : List String
  deriving DecidableEq, Repr, Inhabited

/-- The text of a JSON string. -/
def textOf? : Json → Option String
  | .text s => some s
  | _ => none

/-- The text of a JSON string, or none for null. -/
def nullableTextOf? : Json → Option (Option String)
  | .text s => some (some s)
  | .null => some none
  | _ => none

instance : Message GeneratedFile where
  toJson f := .record [("filePath", .text f.path), ("fileContent", .text f.content)]
  reader := readRecord [required "filePath" readText, required "fileContent" readText]
  ofJson?
    | .record [(_, .text path), (_, .text content)] => some ⟨path, content⟩
    | _ => none

instance : Message Conversation where
  toJson c := .record [("conversationId", .text c.id)]
  reader := readRecord [required "conversationId" readText]
  ofJson?
    | .record [(_, .text id)] => some ⟨id⟩
    | _ => none

instance : Message UploadRequest where
  toJson r := .record [("contentChecksumSha256", .text r.checksum)]
  reader := readRecord [required "contentChecksumSha256" readText]
  ofJson?
    | .record [(_, .text checksum)] => some ⟨checksum⟩
    | _ => none

instance : Message UploadSlot where
  toJson s := .record [("uploadUrl", .text s.url), ("uploadId", .text s.id),
    ("kmsKeyArn", .ofText? s.kmsKeyArn)]
  reader := readRecord [required "uploadUrl" readText, required "uploadId" readText,
    ⟨"kmsKeyArn", readNullableText, some .null⟩]
  ofJson?
    | .record [(_, .text url), (_, .text id), (_, key)] =>
      (nullableTextOf? key).map (⟨url, id, ·⟩)
    | _ => none

instance : Message PlanRequest where
  toJson r := .record [("uploadId", .text r.uploadId), ("message", .text r.message)]
  reader := readRecord [required "uploadId" readText, required "message" readText]
  ofJson?
    | .record [(_, .text uploadId), (_, .text message)] => some ⟨uploadId, message⟩
    | _ => none

instance : Message Plan where
  toJson p := .record [("plan", .ofText? p.text)]
  reader := readRecord [⟨"plan", readNullableText, some .null⟩]
  ofJson?
    | .record [(_, plan)] => (nullableTextOf? plan).map (⟨·⟩)
    | _ => none

instance : Message GenerationRequest where
  toJson r := .record (("uploadId", .text r.uploadId) ::
    match r.message with
    | none => []
    | some m => [("message", .text m)])
  reader := readRecord [required "uploadId" readText, ⟨"message", readNullableText, some .null⟩]
  ofJson?
    | .record [(_, .text uploadId), (_, message)] =>
      (nullableTextOf? message).map (⟨uploadId, ·⟩)
    | _ => none

instance : Message Generation where
  toJson g := .record [("codeGenerationId", .text g.id)]
  reader := readRecord [required "codeGenerationId" readText]
  ofJson?
    | .record [(_, .text id)] => some ⟨id⟩
    | _ => none

instance : Message GenerationStatus where
  toJson s := .record [("status", .text s.status)]
  reader := readRecord [required "status" readText]
  ofJson?
    | .record [(_, .text status)] => some ⟨status⟩
    | _ => none

instance : Message Export where
  toJson a := .record [("newFileContents", .list (a.files.map Message.toJson)),
    ("deletedFiles", .list (a.deleted.map .text))]
  reader := readRecord [
    required "newFileContents" (readList (Message.reader GeneratedFile)),
    ⟨"deletedFiles", readList readText, some (.list [])⟩]
  ofJson?
    | .record [(_, .list files), (_, .list deleted)] =>
      match files.mapM Message.ofJson?, deleted.mapM textOf? with
      | some files, some deleted => some ⟨files, deleted⟩
      | _, _ => none
    | _ => none

end Service

end Codewright
