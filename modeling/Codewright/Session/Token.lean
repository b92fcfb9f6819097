/-!
# Cancellation tokens

A token stands for something that can be cancelled. Cancelling a token cancels the tokens made
below it, too, and nothing is ever cancelled by accident: a new token has a number of its own.
-/

namespace Codewright.Session

/-- A token: its number and the numbers of the tokens above it. -/
structure Token where
  id : Nat
  above : List Nat := []
  deriving DecidableEq, Repr, Inhabited

/-- The tokens made so far and those that were cancelled. -/
structure Tokens where
  next : Nat := 0
  cancelled : List Nat := []
  deriving DecidableEq, Repr

namespace Tokens

/-- A new token. -/
def fresh (ts : Tokens) : Token × Tokens :=
  (⟨ts.next, []⟩, { ts with next := ts.next + 1 })

/-- A new token below another one. -/
def child (ts : Tokens) (t : Token) : Token × Tokens :=
  (⟨ts.next, t.id :: t.above⟩, { ts with next := ts.next + 1 })

/-- Cancels a token that has been made. -/
def cancel (ts : Tokens) (t : Token) : Tokens :=
  if t.id < ts.next then { ts with cancelled := t.id :: ts.cancelled } else ts

/-- Whether a token, or one above it, has been cancelled. -/
def isCancelled (ts : Tokens) (t : Token) : Bool :=
  (t.id :: t.above).any (ts.cancelled.contains ·)

end Tokens

end Codewright.Session
