/-!
# Polling limits
-/

namespace Codewright.Session

/-- How often and how long to ask for the status of a job. -/
structure Polling where
  intervalMs : Nat := 10000
  maxIterations : Nat := 180
  deriving DecidableEq, Repr

/-- The longest time that is waited at once: thirty years of 365 days. Pauses are made by the timer
of the asynchronous runtime, which is not part of this program. A time that is further ahead is what
it calls the far future, and it waits only up to there. -/
def longestPauseMs : Nat := 946080000000

/-- The time between two questions. -/
def Polling.pauseMs (p : Polling) : Nat :=
  min p.intervalMs longestPauseMs

/-- The size up to which a workspace is uploaded. -/
def defaultMaxRepoSizeBytes : Nat := 200 * 1024 * 1024

/-- The retry budget of a new session. -/
def defaultRetries : Nat := 3

end Codewright.Session
