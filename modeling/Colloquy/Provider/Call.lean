import Colloquy.Provider.Performance

/-!
# One call of a provider

A provider is called on its own: its pieces of text are gathered, time passes only while it waits, and its requests are
answered in turn. Whoever calls may stop it: before it begins, right after some piece of text, at some time, or when a
request of it has arrived.
-/

namespace Colloquy

/-- When a call is stopped. -/
structure CallPlan where
  /-- Right after so many pieces of text; zero means before the call. -/
  stopAfter : Option Nat := none
  /-- So many milliseconds after the start. -/
  stopAtMs : Option Nat := none
  /-- When a request has arrived, before it is answered. -/
  stopAtRequest : Bool := false
  deriving DecidableEq, Repr, Inhabited

/-- A call so far. -/
structure CallState where
  pieces : Array String := #[]
  stopped : Bool := false
  elapsedMs : Nat := 0
  /-- The requests that were sent, whether they arrived or not. -/
  sent : List HttpRequest := []
  /-- The requests that arrived. -/
  received : List HttpRequest := []
  deriving DecidableEq, Repr, Inhabited

namespace CallPlan

/-- The state in which a call begins. -/
def start (plan : CallPlan) : CallState :=
  { stopped := plan.stopAfter = some 0 }

/-- Takes a piece of text. -/
def emit (plan : CallPlan) (text : String) (s : CallState) : CallState :=
  let stopped := s.stopped || plan.stopAfter = some (s.pieces.size + 1)
  { s with pieces := s.pieces.push text, stopped }

/-- Lets time pass; a stop that falls into it, or on its end, cuts it short. -/
def wait (plan : CallPlan) (ms : Nat) (s : CallState) : Waiting Unit × CallState :=
  if s.stopped then (.stopped, s)
  else match plan.stopAtMs with
    | some t =>
      if t ≤ s.elapsedMs + ms then (.stopped, { s with stopped := true, elapsedMs := max t s.elapsedMs })
      else (.passed (), { s with elapsedMs := s.elapsedMs + ms })
    | none => (.passed (), { s with elapsedMs := s.elapsedMs + ms })

/-- Answers a request with the reply to a request of its number. -/
def exchange (plan : CallPlan) (replyTo : Nat → Reply) (request : HttpRequest) (s : CallState) :
    Waiting Reply × CallState :=
  if s.stopped then (.stopped, s)
  else
    let reply := replyTo s.sent.length
    let s := { s with sent := s.sent ++ [request] }
    if reply = .unreachable then (.passed reply, s)
    else
      let s := { s with received := s.received ++ [request] }
      if plan.stopAtRequest then (.stopped, { s with stopped := true }) else (.passed reply, s)

/-- What the acts of a provider mean in a call. -/
def stage (plan : CallPlan) (replyTo : Nat → Reply) : Stage (StateM CallState) where
  isStopped := do return (← get).stopped
  emit text := modify (plan.emit text)
  wait ms := modifyGet (plan.wait ms)
  exchange request := modifyGet (plan.exchange replyTo request)

/-- A whole call: how it ends, and the state in which it ends. -/
def run (plan : CallPlan) (replyTo : Nat → Reply) (p : Performance) : Outcome × CallState :=
  (p.run (plan.stage replyTo)).run plan.start

end CallPlan

end Colloquy
