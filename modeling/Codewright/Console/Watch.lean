import Codewright.Service.Http
import Codewright.Session.Conversation
import Codewright.Workspace.Zip

/-!
# Interruptions

The user can interrupt what the console does. While a request of the user is being served, an
interruption cancels the token that is watched; at other times it does not reach the session.
-/

namespace Codewright.Console

open Http (Outgoing Response)
open Service (Call Exchanged)
open Session (Disk Environment Operation Served Token)
open Workspace (ArchiveFormat)

/-- What surrounds a console. Its own state has the type `σ`. -/
structure Surroundings (σ : Type) where
  /-- Serves a call. -/
  serve : σ → (c : Call) → Exchanged σ (Except Service.Error c.Answer)
  /-- Lets time pass. -/
  wait : σ → (ms : Nat) → Exchanged σ Unit
  /-- An id that has not been used yet. -/
  freshId : σ → String × σ
  /-- The format in which the workspace is archived. -/
  format : ArchiveFormat
  /-- The disk that the workspace lies on. -/
  disk : σ → Disk

/-- A state of the surroundings, and the token that an interruption cancels. -/
structure Watched (σ : Type) where
  outside : σ
  token : Option Token := none

variable {σ : Type}

/-- The tokens that are cancelled by what came of something. -/
def Watched.cancelled {α : Type} (w : Watched σ) (e : Exchanged σ α) : List Token :=
  if e.interrupted then w.token.toList else []

namespace Surroundings

/-- Surroundings in which calls travel over HTTP to an endpoint and archives are zipped, with a disk
on which no write breaks off. -/
def overHttp (endpoint : String) (exchange : σ → Outgoing → Exchanged σ (Option Response))
    (wait : σ → Nat → Exchanged σ Unit) (freshId : σ → String × σ) : Surroundings σ where
  serve outside c := c.perform exchange endpoint outside
  wait
  freshId
  format := Workspace.Zip.format
  disk _ := .sound

/-- The surroundings as a session sees them. -/
def environment (s : Surroundings σ) : Environment (Watched σ) where
  serve w c :=
    let e := s.serve w.outside c
    { result := e.result, cancelled := w.cancelled e, outside := { w with outside := e.outside } }
  wait w ms :=
    let e := s.wait w.outside ms
    (w.cancelled e, { w with outside := e.outside })
  freshId w :=
    let (id, outside) := s.freshId w.outside
    (id, { w with outside })
  format := s.format

end Surroundings

/-- Has a token watched, or none. -/
def watch (token : Option Token) : Operation (Watched σ) Unit :=
  modify fun r => { r with world := { r.world with outside := { r.world.outside with token } } }

/-- An operation during which an interruption cancels the token that the session has at the
start. -/
def interruptible {α : Type} (o : Operation (Watched σ) α) : Operation (Watched σ) α := do
  watch (some (← get).session.state.token)
  let result ← Operation.attempt o
  watch none
  match result with
  | .ok a => return a
  | .error e => throw e

end Codewright.Console
