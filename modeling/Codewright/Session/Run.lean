import Codewright.Session.Conversation

/-!
# Runs of a session

What can be done with a session, and where a sequence of such moves leads.
-/

namespace Codewright.Session

open Workspace (FileSystem)

/-- Something that is done with a session, or that happens around it in between. -/
inductive Move where
  | preload (message : String)
  | send (message : String)
  | retry
  | acceptPlan
  | generateCode
  | acceptChanges (disk : Disk)
  | handleError (e : Error)
  /-- Somebody cancels a token. -/
  | cancel (t : Token)
  /-- Somebody else changes the workspace. -/
  | edit (files : FileSystem)

/-- What a move gives back. -/
inductive Reply where
  | done
  | content (text : Option String)
  | accepted (a : Accepted)
  deriving DecidableEq, Repr

variable {σ : Type}

namespace Move

/-- Carries out a move. -/
def perform (env : Environment σ) : Move → Operation σ Reply
  | preload message => do
    Session.preload env message
    return .done
  | send message => return .content (← Session.send env message)
  | retry => return .content (← Session.retry env)
  | acceptPlan => do
    Session.acceptPlan
    return .done
  | generateCode => return .content (← Session.generateCode env)
  | acceptChanges disk => return .accepted (← Session.acceptChanges disk)
  | handleError e => do
    Session.handleError e
    return .done
  | cancel t => do
    Operation.act (Action.cancel t)
    return .done
  | edit files => do
    Operation.act (modify fun w => { w with files })
    return .done

/-- Whether a move can change the workspace. -/
def touchesWorkspace : Move → Bool
  | acceptChanges _ | edit _ => true
  | _ => false

end Move

/-- A session and its world after some moves. -/
def run (env : Environment σ) (r : Running σ) (moves : List Move) : Running σ :=
  moves.foldl (fun r m => (exec (m.perform env) r).2) r

end Codewright.Session
