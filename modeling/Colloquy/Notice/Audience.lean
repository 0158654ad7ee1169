import Colloquy.Notice.Channel

/-!
# Listeners that act

The holders of a channel keep their subscriptions by name. A listener notes every call; when it is called for the first
time it may itself do what a holder does: subscribe, end subscriptions, fire the channel again, or give it up. A fire
that has begun calls all listeners that the channel had when it began, whatever they do.
-/

namespace Colloquy

/-- What a holder of a channel does. -/
inductive ChannelStep where
  /-- Subscribes and keeps the subscription under a name. The listener takes the steps when it is first called. -/
  | subscribe (name : String) (reaction : List ChannelStep)
  /-- Ends the subscription kept under a name. -/
  | release (name : String)
  /-- Gives up the subscription kept under a name without ending it. -/
  | detach (name : String)
  /-- Looks for a subscription kept under a name. -/
  | inspect (name : String)
  /-- Delivers a payload. -/
  | fire (payload : String)
  /-- Gives up the channel. -/
  | close
  deriving Repr, Inhabited

/-- What comes of a step. -/
inductive ChannelAnswer where
  /-- The channel had been given up. -/
  | gone
  /-- Subscribed; whether another subscription under that name was replaced. -/
  | subscribed (replaced : Bool)
  /-- The payload was delivered. -/
  | fired
  /-- Whether there was what the step is about. -/
  | found (present : Bool)
  /-- What a look at a subscription shows. -/
  | seen (present : Bool)
  deriving DecidableEq, Repr

/-- A channel, who listens, and who was called. -/
structure Audience where
  channel : Channel String := {}
  /-- Whether the channel is still held. -/
  isOpen : Bool := true
  /-- The ticket of the subscription kept under each name. -/
  kept : List (String × Nat) := []
  /-- What listeners do when they are first called, by ticket. -/
  reactions : List (Nat × List ChannelStep) := []
  /-- The calls so far: who was called, and with what. -/
  heard : List (String × String) := []

namespace Audience

/-- Removes the listener with a ticket, if the channel is still there. -/
def remove (a : Audience) (ticket : Nat) : Audience :=
  if a.isOpen then { a with channel := a.channel.remove ticket } else a

/-- Takes out the subscription kept under a name. -/
def takeOut (a : Audience) (name : String) : Option Nat × Audience :=
  (a.kept.lookup name, { a with kept := a.kept.filter fun k => k.1 ≠ name })

/-- Calls a listener, which notes the call and at its first call reacts. -/
def call (react : List ChannelStep → Audience → Audience) (payload : String) (a : Audience) (listener : Nat × String) :
    Audience :=
  let a := { a with heard := a.heard ++ [(listener.2, payload)] }
  match a.reactions.lookup listener.1 with
  | none => a
  | some steps => react steps { a with reactions := a.reactions.filter fun r => r.1 ≠ listener.1 }

/-- Takes one step; `react` takes the steps of a listener that is called. A subscription under a name that is in use
ends the other one, after it was made itself. -/
def step (react : List ChannelStep → Audience → Audience) (a : Audience) : ChannelStep → ChannelAnswer × Audience
  | .subscribe name reaction =>
    if a.isOpen then
      let (ticket, channel) := a.channel.subscribe name
      let (previous, a) := { a with channel, reactions := a.reactions ++ [(ticket, reaction)] }.takeOut name
      let a := { a with kept := a.kept ++ [(name, ticket)] }
      (.subscribed previous.isSome, previous.elim a a.remove)
    else (.gone, a)
  | .release name =>
    let (ticket, a) := a.takeOut name
    (.found ticket.isSome, ticket.elim a a.remove)
  | .detach name =>
    let (ticket, a) := a.takeOut name
    (.found ticket.isSome, a)
  | .inspect name => (.seen (a.kept.lookup name).isSome, a)
  | .fire payload => if a.isOpen then (.fired, a.channel.listeners.foldl (call react payload) a) else (.gone, a)
  | .close => (.found a.isOpen, { a with isOpen := false })

/-- Takes the steps of a listener. Every reaction happens once, so that `fuel` need not exceed the number of reactions. -/
def react : (fuel : Nat) → List ChannelStep → Audience → Audience
  | 0, _, a => a
  | fuel + 1, steps, a => steps.foldl (fun a s => (step (react fuel) a s).2) a

end Audience

namespace ChannelStep

mutual

/-- The number of steps in a step, itself included. -/
def size : ChannelStep → Nat
  | .subscribe _ reaction => 1 + sizes reaction
  | _ => 1

/-- The number of steps in a list of steps. -/
def sizes : List ChannelStep → Nat
  | [] => 0
  | s :: rest => size s + sizes rest

end

end ChannelStep

namespace Audience

/-- What comes of a step, the calls that it made, and the number of listeners after it while the channel is held. -/
structure Record where
  answer : ChannelAnswer
  heard : List (String × String)
  count : Option Nat
  deriving DecidableEq, Repr

/-- Takes steps one after the other. -/
def playFrom (fuel : Nat) : List ChannelStep → Audience → List Record
  | [], _ => []
  | s :: rest, a =>
    let (answer, a) := step (react fuel) { a with heard := [] } s
    ⟨answer, a.heard, if a.isOpen then some a.channel.count else none⟩ :: playFrom fuel rest a

/-- Takes steps on a new channel. -/
def play (steps : List ChannelStep) : List Record :=
  playFrom (ChannelStep.sizes steps) steps {}

end Audience

end Colloquy
