import Colloquy.Provider.Exchange

/-!
# What a provider does

A provider answers a request by a sequence of acts: it emits pieces of text, waits, and sends requests, and in the end
it has succeeded or failed (`Performance`). Whoever lets it act supplies what the acts mean (`Stage`): where the text
goes, how time passes, what comes back for a request. Between the acts the provider may be told to stop; it does so at
the next point where it waits, looks, or sends, and that counts as success.
-/

namespace Colloquy

/-- The acts of a provider, up to its result. -/
inductive Performance where
  /-- The end. -/
  | done (result : Except Error Unit)
  /-- A piece of text. -/
  | emit (text : String) (next : Performance)
  /-- A look whether to stop. -/
  | check (next : Performance)
  /-- A pause of some milliseconds, cut short by being told to stop. -/
  | wait (ms : Nat) (next : Performance)
  /-- Waiting for nothing but being told to stop. -/
  | hang
  /-- A request, and what to do with what comes back. -/
  | exchange (request : HttpRequest) (next : Reply → Performance)

/-- How a wait ends: in its time, by being told to stop, or not yet. -/
inductive Waiting (α : Type) where
  | passed (value : α)
  | stopped
  | unfinished
  deriving Repr

/-- How a performance ends: with a result, not yet, or by the provider breaking down. -/
inductive Outcome where
  | finished (result : Except Error Unit)
  | unfinished
  | brokeDown

/-- What the acts of a provider mean in a monad. -/
structure Stage (m : Type → Type) where
  /-- Whether the provider has been told to stop. -/
  isStopped : m Bool
  /-- Takes a piece of text. -/
  emit : String → m Unit
  /-- Lets some milliseconds pass. -/
  wait : Nat → m (Waiting Unit)
  /-- Sends a request. -/
  exchange : HttpRequest → m (Waiting Reply)

/-- Lets a provider act. -/
def Performance.run {m : Type → Type} [Monad m] (stage : Stage m) : Performance → m Outcome
  | .done result => pure (.finished result)
  | .emit text next => do
    stage.emit text
    next.run stage
  | .check next => do
    if ← stage.isStopped then pure (.finished (.ok ())) else next.run stage
  | .wait ms next => do
    match ← stage.wait ms with
    | .passed _ => next.run stage
    | .stopped => pure (.finished (.ok ()))
    | .unfinished => pure .unfinished
  | .hang => do
    if ← stage.isStopped then pure (.finished (.ok ())) else pure .unfinished
  | .exchange request next => do
    match ← stage.exchange request with
    | .passed reply => (next reply).run stage
    | .stopped => pure (.finished (.ok ()))
    | .unfinished => pure .unfinished

end Colloquy
