/-!
# Errors of the service

A failed call has a kind, which decides whether repeating it could help, and a message.
-/

namespace Codewright.Service

/-- Why a call failed. -/
inductive ErrorKind where
  /-- The service was not reached, or the connection broke. -/
  | network
  /-- Too many requests. -/
  | throttled
  /-- The service failed. -/
  | serverError
  /-- The service does not know or trust the caller. -/
  | auth
  /-- The request was refused, or the answer makes no sense. -/
  | invalidRequest
  | unknown
  deriving DecidableEq, Repr

/-- Whether the same call may succeed later. -/
def ErrorKind.isRetryable : ErrorKind → Bool
  | network | throttled | serverError => true
  | auth | invalidRequest | unknown => false

/-- A failed call. -/
structure Error where
  kind : ErrorKind
  message : String
  deriving DecidableEq, Repr

namespace Error

/-- The kind of failure that an HTTP status reports. -/
def kindOfStatus (status : Nat) : ErrorKind :=
  if status = 401 || status = 403 then .auth
  else if status = 429 then .throttled
  else if 400 ≤ status && status ≤ 499 then .invalidRequest
  else if 500 ≤ status && status ≤ 599 then .serverError
  else .unknown

/-- The failure that an HTTP status other than success reports, with the text sent along. -/
def ofStatus (status : Nat) (body : String) : Error where
  kind := kindOfStatus status
  message :=
    if body.isEmpty then s!"HTTP {status}" else s!"HTTP {status}: {body}"

end Error

end Codewright.Service
