import Codewright.Chat.Event
import Codewright.Service.Call
import Codewright.Session.Error
import Codewright.Session.Token
import Codewright.Workspace.Archive
import Codewright.Workspace.FileSystem

/-!
# Actions of a session

A session acts on a world: it calls the service, changes the workspace, stages files, tells the
user, and waits. What the service answers, when the user cancels something and how archives are
written is up to an environment, which may behave in any way. Everything that happens is logged.
-/

namespace Codewright.Session

open Service (Call)
open Workspace (ArchiveFormat FileSystem)

/-- What comes of a call: the result, and what the user cancelled in the meantime. -/
structure Served (σ α : Type) where
  result : Except Service.Error α
  cancelled : List Token := []
  outside : σ

/-- What surrounds a session. Its own state has the type `σ`. -/
structure Environment (σ : Type) where
  /-- Serves a call. -/
  serve : σ → (c : Call) → Served σ c.Answer
  /-- Lets time pass; the user may cancel something. -/
  wait : σ → (ms : Nat) → List Token × σ
  /-- An id that has not been used yet. -/
  freshId : σ → String × σ
  /-- The format in which the workspace is archived. -/
  format : ArchiveFormat

/-- Something that happened. -/
inductive LogEntry where
  | call (c : Call) (result : Except Service.Error c.Answer)
  | event (e : Chat.Event)
  | waited (ms : Nat)

/-- The state of everything a session can act on. -/
structure World (σ : Type) where
  outside : σ
  files : FileSystem := {}
  staged : Staging.Store := .empty
  tokens : Tokens := {}
  /-- What happened, latest first. -/
  log : List LogEntry := []

/-- Acts on a world; what was done stays done if the action fails. -/
abbrev Action (σ α : Type) := ExceptT Error (StateM (World σ)) α

/-- The result of something that acts on a state, begun in `s`, and the state it leaves. -/
def exec {S α : Type} (a : ExceptT Error (StateM S) α) (s : S) : Except Error α × S :=
  a.run.run s

namespace Action

variable {σ : Type}

/-- Logs something that happened. -/
def record (e : LogEntry) : Action σ Unit :=
  modify fun w => { w with log := e :: w.log }

/-- Calls the service. A failure becomes an error of the session. -/
def call (env : Environment σ) (c : Call) (wrap : Service.Error → Error) : Action σ c.Answer := do
  let w ← get
  let served := env.serve w.outside c
  set { w with
    outside := served.outside
    tokens := served.cancelled.foldl Tokens.cancel w.tokens
    log := .call c served.result :: w.log }
  match served.result with
  | .ok answer => return answer
  | .error e => throw (wrap e)

/-- Tells the user. -/
def emit (e : Chat.Event) : Action σ Unit :=
  record (.event e)

/-- Waits for some time. -/
def wait (env : Environment σ) (ms : Nat) : Action σ Unit :=
  modify fun w =>
    let (cancelled, outside) := env.wait w.outside ms
    { w with
      outside
      tokens := cancelled.foldl Tokens.cancel w.tokens
      log := .waited ms :: w.log }

/-- An id that has not been used yet. -/
def freshId (env : Environment σ) : Action σ String :=
  modifyGet fun w =>
    let (id, outside) := env.freshId w.outside
    (id, { w with outside })

/-- A new token. -/
def newToken : Action σ Token :=
  modifyGet fun w =>
    let (t, tokens) := w.tokens.fresh
    (t, { w with tokens })

/-- A new token below `t`. -/
def childToken (t : Token) : Action σ Token :=
  modifyGet fun w =>
    let (t, tokens) := w.tokens.child t
    (t, { w with tokens })

/-- Cancels a token. -/
def cancel (t : Token) : Action σ Unit :=
  modify fun w => { w with tokens := w.tokens.cancel t }

/-- Whether a token has been cancelled. -/
def isCancelled (t : Token) : Action σ Bool := do
  return (← get).tokens.isCancelled t

/-- Stages files. -/
def stage (files : List Staging.StagedFile) : Action σ Unit :=
  modify fun w => { w with staged := w.staged.registerAll files }

/-- The result of a computation that may fail. -/
def ofExcept {α : Type} : Except Error α → Action σ α
  | .ok a => return a
  | .error e => throw e

end Action

end Codewright.Session
