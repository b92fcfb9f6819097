import Codewright.Console.Command
import Codewright.Console.Watch

/-!
# The console

The console reads lines, has the session carry them out and tells the user about errors. It needs to
know where the service is.
-/

namespace Codewright.Console

open Session (Operation)

/-! ## Starting -/

/-- Why a console does not start. -/
inductive StartError where
  | badSettings (e : SettingsError)
  | noEndpoint
  deriving DecidableEq, Repr

/-- The report of such an error. -/
def StartError.describe : StartError → String
  | badSettings e => e.describe
  | noEndpoint => Text.quote "WEAVERBIRD_ENDPOINT is not set"

/-- The settings and the endpoint of the service, read from named variables. -/
def configure (lookup : String → Option String) : Except StartError (Settings × String) :=
  match Settings.ofLookup lookup with
  | .error e => .error (.badSettings e)
  | .ok settings =>
    match settings.endpoint with
    | none => .error .noEndpoint
    | some endpoint => .ok (settings, endpoint)

/-! ## Running -/

variable {σ : Type}

/-- Carries out a command. -/
def run (s : Surroundings σ) : Command → Operation (Watched σ) Unit
  | .code => do
    Session.acceptPlan
    let _ ← interruptible (Session.generateCode s.environment)
  | .accept => do
    let _ ← Session.acceptChanges (s.disk (← get).world.outside.outside)
  | .retry => do
    let _ ← interruptible (Session.retry s.environment)
  | .say message => do
    Session.preload s.environment message
    let _ ← interruptible (Session.send s.environment message)

/-- Carries out a line. The user is told about an error. -/
def handleLine (s : Surroundings σ) (line : String) : Operation (Watched σ) Unit := do
  match ← Operation.attempt (run s (.ofLine line)) with
  | .ok () => return ()
  | .error e => Session.handleError e

/-- How the input of a console ends. -/
inductive Ending where
  | finished
  /-- A line was no text. -/
  | unreadable
  deriving DecidableEq, Repr

/-- Carries out lines up to one that is no text. -/
def handleLines (s : Surroundings σ) : List (Option String) → Operation (Watched σ) Ending
  | [] => return .finished
  | none :: _ => return .unreadable
  | some line :: rest => do
    handleLine s line
    handleLines s rest

end Codewright.Console
