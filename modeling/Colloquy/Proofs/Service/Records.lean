import Colloquy.Service.Basic

/-!
# Hosts that keep a record

A part of a service, its roster or its directory, changes in deeds, one after the other, and deeds are announced (`Matter`). A host that
keeps the state it is given, and whose listeners do such deeds only, keeps a record of that part (`Host.Records`): what a program does is
found in it as deeds, with all that is told of them (`Ledger.Goes`). Listeners that run errands when they are told something, at any
depth, are a host of this kind (`Bureau.host_supplies`).
-/

namespace Colloquy

variable {π σ δ τ W α β κ : Type}

/-- A part of a service, by what deeds do to it, one after the other, and by what is told of them. -/
structure Matter (π σ δ τ : Type) where
  part : Service π → σ
  does : σ → List δ → σ
  tells : σ → List δ → List τ
  /-- The announcements that may be made of it, or while something is done to it. -/
  isHeard : Announcement → Bool
  /-- What is told by an announcement, with the part as it is then. -/
  told : Announcement → σ → List τ
  does_nil : ∀ s, does s [] = s
  tells_nil : ∀ s, tells s [] = []
  does_append : ∀ s deeds more, does s (deeds ++ more) = does (does s deeds) more
  tells_append : ∀ s deeds more, tells s (deeds ++ more) = tells s deeds ++ tells (does s deeds) more

/-- Where a host has its service, and what was told so far. -/
structure Ledger (matter : Matter π σ δ τ) (W : Type) where
  service : W → Service π
  told : W → List τ
  /-- What the host sees to, so that it can be relied on. -/
  inOrder : W → Prop

namespace Ledger

variable {matter : Matter π σ δ τ} (l : Ledger matter W)

/-- The host is in order, with the part as it is and all that was told. -/
structure Holds (w : W) (s : σ) (told : List τ) : Prop where
  inOrder : l.inOrder w
  part : matter.part (l.service w) = s
  told : l.told w = told

/-- A program does some deeds, and all that is announced of them is told. `P` says which, in view of the result. -/
def Goes (s : σ) (x : StateM W α) (P : α → List δ → Prop) : Prop :=
  ∀ w told, l.Holds w s told → ∃ deeds, P (x.run w).1 deeds ∧ l.Holds (x.run w).2 (matter.does s deeds) (told ++ matter.tells s deeds)

variable {l} {s : σ} {x : StateM W α} {P Q : α → List δ → Prop}

theorem Holds.of_nothing {w : W} {told : List τ} (hw : l.Holds w s told) :
    l.Holds w (matter.does s []) (told ++ matter.tells s []) := by
  rw [matter.does_nil, matter.tells_nil, List.append_nil]
  exact hw

theorem Goes.imp (h : l.Goes s x P) (hPQ : ∀ a deeds, P a deeds → Q a deeds) : l.Goes s x Q := by
  intro w told hw
  obtain ⟨deeds, hP, hafter⟩ := h w told hw
  exact ⟨deeds, hPQ _ deeds hP, hafter⟩

theorem Goes.bind {k : α → StateM W β} {R : β → List δ → Prop} (hx : l.Goes s x P)
    (hk : ∀ a deeds, P a deeds → l.Goes (matter.does s deeds) (k a) fun b more => R b (deeds ++ more)) : l.Goes s (x >>= k) R := by
  intro w told hw
  obtain ⟨deeds, hP, hmid⟩ := hx w told hw
  obtain ⟨more, hR, hafter⟩ := hk _ deeds hP _ _ hmid
  refine ⟨deeds ++ more, hR, ?_⟩
  rw [matter.does_append, matter.tells_append, ← List.append_assoc]
  exact hafter

/-- What only gives a result. -/
theorem goes_pure {a : α} (h : P a []) : l.Goes s (pure a) P :=
  fun _ _ hw => ⟨[], h, hw.of_nothing⟩

/-- Where the first program does nothing, all is done by the second one. -/
theorem Goes.bind_of_nothing {k : α → StateM W β} {R : β → List δ → Prop} (hx : l.Goes s x fun _ deeds => deeds = [])
    (hk : ∀ a, l.Goes s (k a) R) : l.Goes s (x >>= k) R := by
  refine hx.bind fun a deeds hnone => ?_
  subst hnone
  rw [matter.does_nil]
  exact hk a

/-- To give the result in another form does nothing more. -/
theorem Goes.give {f : α → β} {R : β → List δ → Prop} (hx : l.Goes s x fun a deeds => R (f a) deeds) :
    l.Goes s (do let a ← x; return f a) R := by
  refine hx.bind fun a deeds ha => goes_pure ?_
  rw [List.append_nil]
  exact ha

end Ledger

/-- The host keeps the state that it is given, and delivers what it is told to. Then its listeners do some deeds of their own, if any;
`may` are those that they may do. -/
structure Host.Records {matter : Matter π σ δ τ} (host : Host π (StateM W)) (l : Ledger matter W) (may : δ → Prop) : Prop where
  state : ∀ w, host.state.run w = (l.service w, w)
  setState : ∀ s w, l.service ((host.setState s).run w).2 = s
  told : ∀ s w, l.told ((host.setState s).run w).2 = l.told w
  keeps : ∀ s w, l.inOrder w → l.inOrder ((host.setState s).run w).2
  announce : ∀ {a}, matter.isHeard a = true → ∀ {w s told}, l.Holds w s told → ∃ inner, (∀ c ∈ inner, may c) ∧
    l.Holds ((host.announce a).run w).2 (matter.does s inner) (told ++ (matter.told a s ++ matter.tells s inner))

/-- The host also draws what is needed for sessions and messages, and asks for a context; whom it asks may do some deeds too. -/
structure Host.Supplies {matter : Matter π σ δ τ} (host : Host π (StateM W)) (l : Ledger matter W) (may : δ → Prop) : Prop
    extends host.Records l may where
  newId : ∀ s, l.Goes s host.newId fun _ deeds => deeds = []
  newStamp : ∀ s, l.Goes s host.newStamp fun _ deeds => deeds = []
  context : ∀ s, l.Goes s host.context fun _ deeds => ∀ a ∈ deeds, may a

section Records

variable {matter : Matter π σ δ τ} {host : Host π (StateM W)} {l : Ledger matter W} {may : δ → Prop} (h : host.Records l may)

include h

theorem Host.Records.run_state_bind {w : W} (k : Service π → StateM W α) :
    (host.state >>= k).run w = (k (l.service w)).run w := by
  rw [StateT.run_bind, h.state]
  rfl

/-- The service is replaced by another one. -/
theorem Host.Records.holds_setState {w : W} {s : σ} {told : List τ} (hw : l.Holds w s told) (f : Service π → Service π) :
    l.Holds (((do host.setState (f (← host.state))) : StateM W Unit).run w).2 (matter.part (f (l.service w))) told := by
  rw [h.run_state_bind]
  exact ⟨h.keeps _ w hw.inOrder, by rw [h.setState], by rw [h.told, hw.told]⟩

theorem Host.Records.goes_state_bind {s : σ} {k : Service π → StateM W α} {P : α → List δ → Prop}
    (hk : ∀ t : Service π, matter.part t = s → l.Goes s (k t) P) : l.Goes s (host.state >>= k) P := by
  intro w told hw
  rw [h.run_state_bind]
  exact hk _ hw.part w told hw

end Records

/-! ## Listeners that run errands -/

/-- Asks one thing after the other of whoever answers; gives them with their answers. -/
def askAll {m : Type → Type} [Monad m] (answer : κ → m α) : List κ → m (List (κ × α))
  | [] => return []
  | call :: rest => do
    let a ← answer call
    let answered ← askAll answer rest
    return (call, a) :: answered

/-- What somebody asks, in view of the answers. -/
inductive Errand (κ α : Type) where
  | done
  | ask (call : κ) (next : α → Errand κ α)

/-- Asks it all of whoever answers. -/
def Errand.run {m : Type → Type} [Monad m] (answer : κ → m α) : Errand κ α → m Unit
  | .done => pure ()
  | .ask call next => do
    let a ← answer call
    (next a).run answer

/-- What a host holds whose listeners run such errands: the service, what was told so far, and how many identifiers were drawn. -/
structure Bureau (π τ : Type) where
  service : Service π := {}
  told : List τ := []
  drawn : Nat := 0

namespace Bureau

variable {ε : Type} (matter : Matter π σ δ τ)

/-- Listeners run an errand when they hear of something, in view of all that was told; `act` is how they do it. -/
def hostWith (reacts : Announcement → List τ → ε) (act : ε → StateM (Bureau π τ) Unit) : Host π (StateM (Bureau π τ)) where
  state := do return (← get).service
  setState s := modify fun w => { w with service := s }
  announce a := do
    modify fun w => { w with told := w.told ++ matter.told a (matter.part w.service) }
    act (reacts a (← get).told)
  newId := modifyGet fun w => (.ofNat w.drawn, { w with drawn := w.drawn + 1 })
  newStamp := pure default
  context := pure none

/-- The host of such listeners, with at most `depth` calls inside one another in which they run errands; `answer` is how a host answers
what they ask. -/
def host (answer : Host π (StateM (Bureau π τ)) → κ → StateM (Bureau π τ) α) (reacts : Announcement → List τ → Errand κ α) :
    (depth : Nat) → Host π (StateM (Bureau π τ))
  | 0 => hostWith matter reacts fun _ => pure ()
  | depth + 1 => hostWith matter reacts (Errand.run (answer (host answer reacts depth)))

/-- Where a bureau has its service, and what was told. -/
def ledger : Ledger matter (Bureau π τ) :=
  ⟨service, told, fun _ => True⟩

variable {matter}

open Ledger

theorem goes_errand {answer : κ → StateM (Bureau π τ) α} (h : ∀ call s, (ledger matter).Goes s (answer call) fun _ _ => True)
    (errand : Errand κ α) (s : σ) : (ledger matter).Goes s (errand.run answer) fun _ _ => True := by
  induction errand generalizing s with
  | done => exact goes_pure trivial
  | ask call next ih => exact (h call s).bind fun a _ _ => ih a _

theorem hostWith_supplies {reacts : Announcement → List τ → ε} {act : ε → StateM (Bureau π τ) Unit} {may : δ → Prop}
    (hact : ∀ errand s, (ledger matter).Goes s (act errand) fun _ deeds => ∀ a ∈ deeds, may a) :
    (hostWith matter reacts act).Supplies (ledger matter) may where
  state _ := rfl
  setState _ _ := rfl
  told _ _ := rfl
  keeps _ _ _ := trivial
  announce {a} _ {w s told} hw := by
    have hnoted : (ledger matter).Holds { w with told := w.told ++ matter.told a (matter.part w.service) } s (told ++ matter.told a s) :=
      ⟨trivial, hw.part, by rw [← hw.part, ← hw.told]; rfl⟩
    obtain ⟨inner, hmay, hinner⟩ := hact (reacts a (w.told ++ matter.told a (matter.part w.service))) s _ _ hnoted
    rw [List.append_assoc] at hinner
    exact ⟨inner, hmay, hinner⟩
  newId _ _ _ hw := ⟨[], rfl, Holds.of_nothing ⟨trivial, hw.part, hw.told⟩⟩
  newStamp _ := goes_pure rfl
  context _ := goes_pure nofun

/-- Listeners who only listen. -/
theorem host_supplies_listening (answer : Host π (StateM (Bureau π τ)) → κ → StateM (Bureau π τ) α)
    (reacts : Announcement → List τ → Errand κ α) : (host matter answer reacts 0).Supplies (ledger matter) fun _ => False :=
  hostWith_supplies fun _ _ => goes_pure nofun

/-- What listeners do is deeds, at whatever depth. -/
theorem host_supplies {answer : Host π (StateM (Bureau π τ)) → κ → StateM (Bureau π τ) α}
    (h : ∀ host : Host π (StateM (Bureau π τ)), host.Supplies (ledger matter) (fun _ => True) →
      ∀ call s, (ledger matter).Goes s (answer host call) fun _ _ => True)
    (reacts : Announcement → List τ → Errand κ α) (depth : Nat) :
    (host matter answer reacts depth).Supplies (ledger matter) fun _ => True := by
  induction depth with
  | zero => exact hostWith_supplies fun _ _ => goes_pure fun _ _ => trivial
  | succ depth ih => exact hostWith_supplies fun errand s => (goes_errand (h _ ih) errand s).imp fun _ _ _ _ _ => trivial

end Bureau

end Colloquy
