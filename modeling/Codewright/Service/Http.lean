import Codewright.Http.Wire

/-!
# Calls over HTTP

Each call is one request, and the response to it holds the answer. The service has an endpoint,
below which every conversation has a URL; an archive goes to the URL that the service named for it.
-/

namespace Codewright.Service

open Http (Request Response Outgoing Header)

/-! ## Requests -/

/-- The URL of a path below an endpoint. Slashes at the end of the endpoint do not count. -/
def urlBelow (endpoint path : String) : String :=
  String.ofList (endpoint.toList.reverse.dropWhile (· = '/')).reverse ++ "/" ++ path

/-- A request that sends JSON. -/
def postJson (endpoint path : String) (content : Json) : Request where
  method := .post
  url := urlBelow endpoint path
  headers := [⟨"content-type", "application/json"⟩]
  body := .json content.render

/-- The headers of an upload. The service's key, if there is one, encrypts what is uploaded. -/
def uploadHeaders (checksum : String) (kmsKeyArn : Option String) : List Header :=
  [⟨"content-type", "application/zip"⟩, ⟨"x-amz-checksum-sha256", checksum⟩] ++
    match kmsKeyArn with
    | none => []
    | some key => [⟨"x-amz-server-side-encryption", "aws:kms"⟩,
        ⟨"x-amz-server-side-encryption-aws-kms-key-id", key⟩]

/-- The path of a conversation. -/
def conversationPath (id : String) : String :=
  "conversations/" ++ id

/-- The request that makes a call. -/
def Call.request (endpoint : String) : Call → Request
  | createConversation => postJson endpoint "conversations" (.record [])
  | createUploadUrl conversation checksum =>
    postJson endpoint (conversationPath conversation ++ "/upload-url")
      (Message.toJson (⟨checksum⟩ : UploadRequest))
  | upload url content checksum kmsKeyArn =>
    { method := .put, url, headers := uploadHeaders checksum kmsKeyArn, body := .payload content }
  | generatePlan conversation uploadId message =>
    postJson endpoint (conversationPath conversation ++ "/plan")
      (Message.toJson (⟨uploadId, message⟩ : PlanRequest))
  | startCodeGeneration conversation uploadId message =>
    postJson endpoint (conversationPath conversation ++ "/code-generations")
      (Message.toJson (⟨uploadId, message⟩ : GenerationRequest))
  | getCodeGeneration conversation id =>
    { method := .get
      url := urlBelow endpoint (conversationPath conversation ++ "/code-generations/" ++ id) }
  | exportResult conversation =>
    { method := .get
      url := urlBelow endpoint (conversationPath conversation ++ "/result-archive") }

/-! ## Answers -/

/-- The answer to a call that a response holds. -/
def Call.readAnswer : (c : Call) → Response → Except Error c.Answer
  | createConversation, r => (r.message : Except Error Conversation).map (·.id)
  | createUploadUrl _ _, r => r.message
  | upload _ _ _ _, r => r.check
  | generatePlan _ _ _, r => (r.message : Except Error Plan).map (·.text)
  | startCodeGeneration _ _ _, r => (r.message : Except Error Generation).map (·.id)
  | getCodeGeneration _ _, r => (r.message : Except Error GenerationStatus).map (·.status)
  | exportResult _, r => r.message

/-- The answer to a call that was sent to `url`, given the response if there was one. -/
def Call.conclude (c : Call) (url : Http.Url) (response : Option Response) :
    Except Error c.Answer :=
  match response.bind Response.final? with
  | none => .error (Http.unanswered url)
  | some r => c.readAnswer r

/-! ## Exchanges -/

/-- What comes of something outside, and whether the user interrupted it. -/
structure Exchanged (σ α : Type) where
  result : α
  interrupted : Bool := false
  outside : σ

/-- Makes a call. The exchange is asked for the response to the request, of which there is none if
nobody answers. -/
def Call.perform {σ : Type} (exchange : σ → Outgoing → Exchanged σ (Option Response))
    (endpoint : String) (outside : σ) (c : Call) : Exchanged σ (Except Error c.Answer) :=
  match (c.request endpoint).prepare with
  | .error e => { result := .error e, outside }
  | .ok request =>
    let exchanged := exchange outside request
    { exchanged with result := c.conclude request.url exchanged.result }

end Codewright.Service
