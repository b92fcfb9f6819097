import Codewright.Chat.Event

/-!
# The way to the chat window

Events wait in a channel until the window takes them. Once the window is gone events are dropped;
nobody is told.
-/

namespace Codewright.Chat

/-- The events on their way, latest first, and whether anybody will take them. -/
structure Channel where
  pending : List Event := []
  isOpen : Bool := true

namespace Channel

/-- Sends an event. -/
def send (c : Channel) (e : Event) : Channel :=
  if c.isOpen then { c with pending := e :: c.pending } else c

/-- Takes the waiting events, in the order in which they were sent. -/
def take (c : Channel) : List Event × Channel :=
  (c.pending.reverse, { c with pending := [] })

/-- The window goes away, and with it what waits for it. -/
def close (_ : Channel) : Channel where
  pending := []
  isOpen := false

end Channel

end Codewright.Chat
