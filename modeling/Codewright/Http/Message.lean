import Codewright.Http.Url
import Codewright.Service.Call

/-!
# Requests and responses

A request is composed for the address that somebody wrote down. Before it is sent the address is
read as a URL and the values of its headers are looked at; a request that cannot be sent is an error
of its own.
-/

namespace Codewright.Http

/-- What is done with the thing that a URL names. -/
inductive Method where
  | get
  | post
  | put
  deriving DecidableEq, Repr

/-- The word for a method. -/
def Method.word : Method → String
  | get => "GET"
  | post => "POST"
  | put => "PUT"

/-- What a request carries. -/
inductive Body where
  | empty
  | json (text : String)
  | payload (content : ByteArray)

/-- The bytes that are transferred. -/
def Body.bytes : Body → ByteArray
  | empty => ByteArray.empty
  | json text => text.toUTF8
  | payload content => content

/-- A name and a value. -/
structure Header where
  name : String
  value : String
  deriving DecidableEq, Repr

/-- Whether a character can be part of the value of a header: tabs can, other control characters
cannot. -/
def isHeaderChar (c : Char) : Bool :=
  c = '\t' || 0x20 ≤ c.toNat && c.toNat ≠ 0x7F

/-- Whether a header can be sent. -/
def Header.isValid (h : Header) : Bool :=
  h.value.toList.all isHeaderChar

/-- A request as it is composed. -/
structure Request where
  method : Method
  url : String
  headers : List Header := []
  body : Body := .empty

/-- A request that can be sent. -/
structure Outgoing where
  method : Method
  url : Url
  headers : List Header
  body : Body

/-- What comes back. -/
structure Response where
  status : Nat
  body : List UInt8 := []
  /-- Whether the connection broke off in the middle of the body. -/
  brokenOff : Bool := false
  deriving DecidableEq, Repr

/-! ## Errors on the way -/

/-- A request that could not be composed. -/
def unsendable : Service.Error := ⟨.unknown, "builder error"⟩

/-- A request to a URL that means nothing in a network. -/
def unsendableTo (url : Url) : Service.Error :=
  ⟨.unknown, "builder error for url (" ++ url.toText ++ ")"⟩

/-- A request that was not answered. -/
def unanswered (url : Url) : Service.Error :=
  ⟨.network, "error sending request for url (" ++ url.toText ++ ")"⟩

/-- A response that makes no sense. -/
def malformedResponse : Service.Error :=
  ⟨.invalidRequest, "Malformed response: error decoding response body"⟩

/-! ## Sending -/

/-- The longest text of a URL, in bytes, that can be requested. -/
def maxUrlLength : Nat := 65534

/-- The characters that can be part of the name of a host, but not of one that is asked. -/
def unaskedChars : List Char := ['"', '`', '\x7b', '\x7d']

/-- Whether a URL can be requested. -/
def Url.isRequestable (u : Url) : Bool :=
  (u.scheme = "http" || u.scheme = "https") && u.toText.utf8ByteSize ≤ maxUrlLength
    && !(u.host.any fun host => host.chars.any (· ∈ unaskedChars))

/-- Makes a request ready to be sent. -/
def Request.prepare (r : Request) : Except Service.Error Outgoing :=
  match Url.parse? r.url with
  | none => .error unsendable
  | some url =>
    let url := url.withoutCredentials
    if ¬ url.hasHost then .error (unsendableTo url)
    else if ¬ r.headers.all Header.isValid then .error unsendable
    else if ¬ url.isRequestable then .error (unsendableTo url)
    else .ok { method := r.method, url, headers := r.headers, body := r.body }

/-! ## Receiving -/

/-- Whether a response with this status only announces the final one. -/
def isInterim (status : Nat) : Bool :=
  100 ≤ status && status ≤ 199 && status ≠ 101

/-- Whether a response reports success. -/
def Response.isSuccess (r : Response) : Bool :=
  200 ≤ r.status && r.status ≤ 299

/-- Whether a response has no body, whatever follows it. -/
def Response.isBare (r : Response) : Bool :=
  r.status < 200 || r.status = 204 || r.status = 304

/-- The body of a response, if all of it arrived. -/
def Response.content? (r : Response) : Option (List UInt8) :=
  if r.isBare then some []
  else if r.brokenOff then none
  else some r.body

/-- The error that a response reports, with its text if it has one. -/
def Response.error (r : Response) : Service.Error :=
  .ofStatus r.status (Text.trim (Text.lossy (r.content?.getD [])))

/-- Fails if the response reports a failure. -/
def Response.check (r : Response) : Except Service.Error Unit :=
  if r.isSuccess then .ok () else .error r.error

/-- Reads the message in a response. -/
def Response.message {α : Type} [Message α] (r : Response) : Except Service.Error α :=
  if ¬ r.isSuccess then .error r.error
  else
    match r.content? with
    | none => .error malformedResponse
    | some content =>
      match Message.decodeSymbols (Text.symbols content) with
      | .ok m => .ok m
      | .error _ => .error malformedResponse

end Codewright.Http
