/-!
# Channels and their listeners

A channel knows its listeners in the order in which they subscribed. Every subscription has a ticket of its own, so that
ending one never ends another. Whoever fires the channel calls the listeners that it has at that moment.
-/

namespace Colloquy

/-- A channel: the listeners by ticket, and the next ticket. -/
structure Channel (α : Type) where
  nextTicket : Nat := 0
  listeners : List (Nat × α) := []
  deriving DecidableEq, Repr, Inhabited

namespace Channel

variable {α : Type}

/-- Adds a listener at the end and gives its ticket. -/
def subscribe (c : Channel α) (listener : α) : Nat × Channel α :=
  (c.nextTicket, ⟨c.nextTicket + 1, c.listeners ++ [(c.nextTicket, listener)]⟩)

/-- Removes the listener with a ticket. -/
def remove (c : Channel α) (ticket : Nat) : Channel α :=
  { c with listeners := c.listeners.filter fun l => l.1 ≠ ticket }

/-- The number of listeners. -/
def count (c : Channel α) : Nat :=
  c.listeners.length

end Channel

end Colloquy
