import Mathlib.Data.List.Nodup
import Mathlib.Data.List.Range
import Mathlib.Data.List.TakeWhile
import Colloquy.Notice.Channel

/-!
# Delivery while listeners act

While a channel is fired its listeners may do with it whatever they like: subscribe, end subscriptions or give them up, fire it again,
or give up the channel itself. What happens then is one sequence of occurrences (`Occurrence`), each of which is possible only as
the channel is at that moment (`Emission.Allows`). It settles who listens (`Emission.IsReached.booked`) and who is called
(`Emission.IsReached.delivered`).
-/

namespace Colloquy

variable {α β : Type}

/-- What happens on a channel. -/
inductive Occurrence (α β : Type) where
  | subscribed (ticket : Nat) (listener : α)
  /-- A subscription is ended by whoever holds it, or dropped. -/
  | released (ticket : Nat)
  /-- A subscription is given up without ending it. -/
  | detached (ticket : Nat)
  /-- The channel is given up. -/
  | closed
  | began (fire : Nat) (payload : β)
  | called (fire : Nat) (listener : Nat × α) (payload : β)
  | finished (fire : Nat)
  deriving DecidableEq, Repr

namespace Occurrence

/-- The subscription that is made. -/
def made? : Occurrence α β → Option (Nat × α)
  | .subscribed ticket listener => some (ticket, listener)
  | _ => none

/-- The subscription that is ended. -/
def released? : Occurrence α β → Option Nat
  | .released ticket => some ticket
  | _ => none

/-- The call that is made of a fire. -/
def callOf? (fire : Nat) : Occurrence α β → Option ((Nat × α) × β)
  | .called n listener payload => if n = fire then some (listener, payload) else none
  | _ => none

/-- Whether the channel is given up. -/
def isClosed : Occurrence α β → Bool
  | .closed => true
  | _ => false

/-- The calls of a fire. -/
def callsOf (fire : Nat) (log : List (Occurrence α β)) : List ((Nat × α) × β) :=
  log.filterMap (callOf? fire)

/-- The subscriptions that were made and have not been ended, in the order in which they were made. -/
def registered (log : List (Occurrence α β)) : List (Nat × α) :=
  (log.filterMap made?).filter fun s => s.1 ∉ log.filterMap released?

/-- What happened before the channel was given up. -/
def whileOpen (log : List (Occurrence α β)) : List (Occurrence α β) :=
  log.takeWhile fun x => !x.isClosed

variable {log : List (Occurrence α β)} {x : Occurrence α β}

theorem filterMap_concat {γ : Type} (f : Occurrence α β → Option γ) :
    (log ++ [x]).filterMap f = log.filterMap f ++ (f x).toList := by
  cases h : f x <;> simp [h]

theorem whileOpen_of_not_mem (h : .closed ∉ log) : whileOpen log = log := by
  refine List.takeWhile_eq_self_iff.mpr fun x hx => ?_
  cases x with
  | closed => exact absurd hx h
  | _ => rfl

theorem whileOpen_append_of_mem (h : .closed ∈ log) (more : List (Occurrence α β)) : whileOpen (log ++ more) = whileOpen log := by
  obtain ⟨before, later, rfl⟩ := List.append_of_mem h
  simp [whileOpen, List.takeWhile_append, isClosed]

theorem mem_released_iff {ticket : Nat} : ticket ∈ log.filterMap released? ↔ .released ticket ∈ log := by
  rw [List.mem_filterMap]
  constructor
  · rintro ⟨y, hy, heq⟩
    cases y with
    | released t => obtain rfl := Option.some.inj heq; exact hy
    | _ => cases heq
  · exact fun h => ⟨_, h, rfl⟩

theorem registered_concat (log : List (Occurrence α β)) (x : Occurrence α β) :
    registered (log ++ [x]) =
      (log.filterMap made? ++ x.made?.toList).filter fun s => s.1 ∉ log.filterMap released? ++ x.released?.toList := by
  rw [registered, filterMap_concat, filterMap_concat]

theorem whileOpen_closed (log : List (Occurrence α β)) : whileOpen (log ++ [.closed]) = whileOpen log := by
  by_cases h : .closed ∈ log
  · exact whileOpen_append_of_mem h _
  · have hall : log.takeWhile (fun x => !x.isClosed) = log := whileOpen_of_not_mem h
    rw [whileOpen, List.takeWhile_append, hall, if_pos rfl, whileOpen_of_not_mem h]
    exact List.append_nil log

/-- A subscription more. -/
theorem registered_subscribed {ticket : Nat} (h : ticket ∉ log.filterMap released?) (listener : α) :
    registered (log ++ [.subscribed ticket listener]) = registered log ++ [(ticket, listener)] := by
  have hmade : (subscribed ticket listener : Occurrence α β).made?.toList = [(ticket, listener)] := rfl
  have hreleased : (subscribed ticket listener : Occurrence α β).released?.toList = [] := rfl
  rw [registered_concat, hmade, hreleased, List.append_nil, List.filter_append, List.filter_singleton, decide_eq_true h]
  rfl

/-- A subscription less. -/
theorem registered_released (ticket : Nat) :
    registered (log ++ [.released ticket]) = (registered log).filter fun s => s.1 ≠ ticket := by
  have hmade : (released ticket : Occurrence α β).made?.toList = [] := rfl
  have hreleased : (released ticket : Occurrence α β).released?.toList = [ticket] := rfl
  rw [registered_concat, hmade, hreleased, List.append_nil, registered, List.filter_filter]
  refine List.filter_congr fun s _ => ?_
  rw [← Bool.decide_and, decide_eq_decide, List.mem_append, List.mem_singleton, not_or, and_comm]

theorem registered_of_none (hmade : x.made? = none) (hreleased : x.released? = none) :
    registered (log ++ [x]) = registered log := by
  rw [registered_concat, hmade, hreleased, Option.toList_none, Option.toList_none, List.append_nil, List.append_nil, registered]

end Occurrence

/-- A fire under way: those that it still calls. -/
structure Round (α β : Type) where
  fire : Nat
  payload : β
  rest : List (Nat × α)
  deriving DecidableEq, Repr

/-- A channel with all that happened on it. -/
structure Emission (α β : Type) where
  channel : Channel α := {}
  /-- Whether the channel is still held. -/
  isOpen : Bool := true
  /-- The subscriptions that somebody holds, by ticket. -/
  held : List Nat := []
  /-- The fires under way, the innermost first. -/
  rounds : List (Round α β) := []
  fires : Nat := 0
  log : List (Occurrence α β) := []

namespace Emission

open Occurrence

/-- What can happen now. Only who holds a subscription can end it or give it up, only while the channel is held it can be used, and
calls are made by the innermost fire. -/
def Allows (e : Emission α β) : Occurrence α β → Prop
  | .subscribed ticket listener => e.isOpen = true ∧ ticket = (e.channel.subscribe listener).1
  | .released ticket => ticket ∈ e.held
  | .detached ticket => ticket ∈ e.held
  | .closed => e.isOpen = true
  | .began fire _ => e.isOpen = true ∧ fire = e.fires
  | .called fire listener payload => ∃ rest outer, e.rounds = ⟨fire, payload, listener :: rest⟩ :: outer
  | .finished fire => ∃ payload outer, e.rounds = ⟨fire, payload, []⟩ :: outer

/-- The channel once something has happened. A fire calls the listeners that there are when it begins; the end of a subscription that
outlives the channel changes nothing of it. -/
def take (e : Emission α β) (x : Occurrence α β) : Emission α β :=
  let e := { e with log := e.log ++ [x] }
  match x with
  | .subscribed ticket listener => { e with channel := (e.channel.subscribe listener).2, held := e.held ++ [ticket] }
  | .released ticket =>
    { e with channel := if e.isOpen then e.channel.remove ticket else e.channel, held := e.held.erase ticket }
  | .detached ticket => { e with held := e.held.erase ticket }
  | .closed => { e with isOpen := false }
  | .began fire payload => { e with rounds := ⟨fire, payload, e.channel.listeners⟩ :: e.rounds, fires := e.fires + 1 }
  | .called _ _ _ =>
    match e.rounds with
    | [] => e
    | round :: outer => { e with rounds := { round with rest := round.rest.tail } :: outer }
  | .finished _ => { e with rounds := e.rounds.tail }

/-- What can come of a new channel. -/
inductive IsReached : Emission α β → Prop
  | new : IsReached {}
  | take {e : Emission α β} {x : Occurrence α β} (h : IsReached e) (hx : e.Allows x) : IsReached (e.take x)

/-- What can happen one after the other. -/
def AllowsAll (e : Emission α β) : List (Occurrence α β) → Prop
  | [] => True
  | x :: rest => e.Allows x ∧ AllowsAll (e.take x) rest

theorem allowsAll_append {e : Emission α β} {all more : List (Occurrence α β)} :
    e.AllowsAll (all ++ more) ↔ e.AllowsAll all ∧ (all.foldl Emission.take e).AllowsAll more := by
  induction all generalizing e with
  | nil => exact (iff_of_eq (true_and _)).symm
  | cons x rest ih => exact (and_congr_right' ih).trans and_assoc.symm

theorem IsReached.takeAll {e : Emission α β} (h : e.IsReached) {all : List (Occurrence α β)} (hall : e.AllowsAll all) :
    (all.foldl Emission.take e).IsReached := by
  induction all generalizing e with
  | nil => exact h
  | cons x rest ih => exact ih (h.take hall.1) hall.2

theorem log_take (e : Emission α β) (x : Occurrence α β) : (e.take x).log = e.log ++ [x] := by
  unfold take
  cases x with
  | called fire listener payload => cases e.rounds <;> rfl
  | _ => rfl

/-! ## Who listens -/

/-- The listeners are the subscriptions that were made and not ended while the channel was open; who holds a subscription holds one
that was made, and neither ended nor given up. -/
structure IsBooked (e : Emission α β) : Prop where
  open_iff : e.isOpen = true ↔ .closed ∉ e.log
  listeners : e.channel.listeners = registered (whileOpen e.log)
  tickets : (e.log.filterMap made?).map Prod.fst = List.range e.channel.nextTicket
  held : ∀ t ∈ e.held, t < e.channel.nextTicket ∧ .released t ∉ e.log ∧ .detached t ∉ e.log
  heldOnce : e.held.Nodup
  released : ∀ t, .released t ∈ e.log → t < e.channel.nextTicket ∧ .detached t ∉ e.log
  detached : ∀ t, .detached t ∈ e.log → t < e.channel.nextTicket

variable {e : Emission α β} {x : Occurrence α β}

/-- What neither makes a subscription nor ends or gives up one, nor gives up the channel, leaves all this as it is. -/
theorem IsBooked.of_same {e' : Emission α β} (h : e.IsBooked) (hlog : e'.log = e.log ++ [x]) (hmade : x.made? = none)
    (hreleased : x.released? = none) (hdetached : ∀ t, x ≠ .detached t) (hclosed : x ≠ .closed) (hchannel : e'.channel = e.channel)
    (hopen : e'.isOpen = e.isOpen) (hheld : e'.held = e.held) : e'.IsBooked := by
  have hnot (t : Nat) : x ≠ .released t := fun heq => by rw [heq] at hreleased; cases hreleased
  have hregistered : registered (whileOpen (e.log ++ [x])) = registered (whileOpen e.log) := by
    by_cases hc : .closed ∈ e.log
    · rw [whileOpen_append_of_mem hc]
    · have hc' : .closed ∉ e.log ++ [x] := by simp [hc, Ne.symm hclosed]
      rw [whileOpen_of_not_mem hc', whileOpen_of_not_mem hc, registered_of_none hmade hreleased]
  constructor
  · rw [hopen, h.open_iff, hlog]
    simp [Ne.symm hclosed]
  · rw [hchannel, h.listeners, hlog, hregistered]
  · rw [hlog, hchannel, ← h.tickets]
    simp [hmade]
  · intro t ht
    rw [hheld] at ht
    obtain ⟨hlt, hr, hd⟩ := h.held t ht
    rw [hlog, hchannel]
    simp [hlt, hr, hd, Ne.symm (hnot t), Ne.symm (hdetached t)]
  · rw [hheld]
    exact h.heldOnce
  · intro t ht
    rw [hlog] at ht ⊢
    have ht' : .released t ∈ e.log := by simpa [Ne.symm (hnot t)] using ht
    rw [hchannel]
    simp [h.released t ht', Ne.symm (hdetached t)]
  · intro t ht
    rw [hlog] at ht
    rw [hchannel]
    exact h.detached t (by simpa [Ne.symm (hdetached t)] using ht)

/-- Who holds a subscription may end it, or give it up. -/
theorem IsBooked.held_erase (h : e.IsBooked) {ticket : Nat} {t : Nat} (ht : t ∈ e.held.erase ticket) : t ∈ e.held ∧ t ≠ ticket :=
  ⟨List.mem_of_mem_erase ht, fun heq => (h.heldOnce.mem_erase_iff.mp ht).1 heq⟩

theorem IsBooked.take_subscribed (h : e.IsBooked) {listener : α} (hopen : e.isOpen = true) :
    (e.take (.subscribed e.channel.nextTicket listener)).IsBooked := by
  have hclosed := h.open_iff.mp hopen
  have hclosed' : .closed ∉ e.log ++ [.subscribed e.channel.nextTicket listener] := by simp [hclosed]
  have hfresh : .released e.channel.nextTicket ∉ e.log := fun hmem => Nat.lt_irrefl _ (h.released _ hmem).1
  have hfresh' : .detached e.channel.nextTicket ∉ e.log := fun hmem => Nat.lt_irrefl _ (h.detached _ hmem)
  constructor
  · exact iff_of_true hopen hclosed'
  · have hlisteners := h.listeners
    rw [whileOpen_of_not_mem hclosed] at hlisteners
    rw [log_take, whileOpen_of_not_mem hclosed', registered_subscribed (mt mem_released_iff.mp hfresh), ← hlisteners]
    rfl
  · rw [log_take, filterMap_concat, List.map_append, h.tickets]
    exact List.range_succ.symm
  · intro t ht
    rcases List.mem_append.mp ht with ht | ht
    · obtain ⟨hlt, hr, hd⟩ := h.held t ht
      exact ⟨Nat.lt_succ_of_lt hlt, by simpa [log_take] using hr, by simpa [log_take] using hd⟩
    · obtain rfl := List.mem_singleton.mp ht
      exact ⟨Nat.lt_succ_self _, by simpa [log_take] using hfresh, by simpa [log_take] using hfresh'⟩
  · refine List.nodup_append.mpr ⟨h.heldOnce, List.nodup_singleton _, fun t ht t' ht' heq => ?_⟩
    rw [List.mem_singleton.mp ht'] at heq
    exact Nat.lt_irrefl _ (heq ▸ (h.held t ht).1)
  · intro t ht
    obtain ⟨hlt, hd⟩ := h.released t (by simpa [log_take] using ht)
    exact ⟨Nat.lt_succ_of_lt hlt, by simpa [log_take] using hd⟩
  · intro t ht
    exact Nat.lt_succ_of_lt (h.detached t (by simpa [log_take] using ht))

theorem IsBooked.take_released (h : e.IsBooked) {ticket : Nat} (hx : ticket ∈ e.held) : (e.take (.released ticket)).IsBooked := by
  have hnext : (e.take (.released ticket)).channel.nextTicket = e.channel.nextTicket := by
    unfold Emission.take Channel.remove
    cases e.isOpen <;> rfl
  constructor
  · rw [log_take]
    exact h.open_iff.trans (by simp)
  · rw [log_take]
    cases hopen : e.isOpen with
    | true =>
      have hclosed := h.open_iff.mp hopen
      have hclosed' : .closed ∉ e.log ++ [.released ticket] := by simp [hclosed]
      rw [whileOpen_of_not_mem hclosed', registered_released, ← whileOpen_of_not_mem hclosed, ← h.listeners]
      simp [Emission.take, hopen, Channel.remove]
    | false =>
      have hclosed : .closed ∈ e.log := by
        by_contra hno
        rw [h.open_iff.mpr hno] at hopen
        cases hopen
      rw [whileOpen_append_of_mem hclosed, ← h.listeners]
      simp [Emission.take, hopen]
  · rw [log_take, hnext, ← h.tickets, filterMap_concat]
    exact congrArg _ (List.append_nil _)
  · intro t ht
    obtain ⟨hmem, hne⟩ := h.held_erase ht
    obtain ⟨hlt, hr, hd⟩ := h.held t hmem
    rw [hnext, log_take]
    simp [hlt, hr, hd, hne]
  · exact h.heldOnce.erase ticket
  · intro t ht
    rw [log_take] at ht ⊢
    rw [hnext]
    rcases List.mem_append.mp ht with ht | ht
    · simpa using h.released t ht
    · obtain rfl := Occurrence.released.inj (List.mem_singleton.mp ht)
      obtain ⟨hlt, -, hd⟩ := h.held t hx
      simpa [hlt] using hd
  · intro t ht
    rw [hnext]
    exact h.detached t (by simpa [log_take] using ht)

theorem IsBooked.take_detached (h : e.IsBooked) {ticket : Nat} (hx : ticket ∈ e.held) : (e.take (.detached ticket)).IsBooked := by
  constructor
  · rw [log_take]
    exact h.open_iff.trans (by simp)
  · have hlog : registered (whileOpen (e.log ++ [.detached ticket])) = registered (whileOpen e.log) := by
      by_cases hc : .closed ∈ e.log
      · rw [whileOpen_append_of_mem hc]
      · have hc' : .closed ∉ e.log ++ [.detached ticket] := by simp [hc]
        rw [whileOpen_of_not_mem hc', whileOpen_of_not_mem hc, registered_of_none rfl rfl]
    rw [log_take, hlog]
    exact h.listeners
  · rw [log_take, filterMap_concat]
    exact (congrArg _ (List.append_nil _)).trans h.tickets
  · intro t ht
    obtain ⟨hmem, hne⟩ := h.held_erase ht
    obtain ⟨hlt, hr, hd⟩ := h.held t hmem
    rw [log_take]
    exact ⟨hlt, by simpa using hr, by simp [hd, hne]⟩
  · exact h.heldOnce.erase ticket
  · intro t ht
    obtain ⟨hlt, hd⟩ := h.released t (by simpa [log_take] using ht)
    have hne : t ≠ ticket := fun heq => (h.held ticket hx).2.1 (heq ▸ by simpa [log_take] using ht)
    exact ⟨hlt, by simp [log_take, hd, hne]⟩
  · intro t ht
    rw [log_take] at ht
    rcases List.mem_append.mp ht with ht | ht
    · exact h.detached t ht
    · obtain rfl := Occurrence.detached.inj (List.mem_singleton.mp ht)
      exact (h.held t hx).1

theorem IsBooked.take_closed (h : e.IsBooked) : (e.take .closed).IsBooked := by
  constructor
  · rw [log_take]
    simp [Emission.take]
  · rw [log_take, whileOpen_closed]
    exact h.listeners
  · rw [log_take, filterMap_concat]
    exact (congrArg _ (List.append_nil _)).trans h.tickets
  · intro t ht
    obtain ⟨hlt, hr, hd⟩ := h.held t ht
    exact ⟨hlt, by simpa [log_take] using hr, by simpa [log_take] using hd⟩
  · exact h.heldOnce
  · intro t ht
    obtain ⟨hlt, hd⟩ := h.released t (by simpa [log_take] using ht)
    exact ⟨hlt, by simpa [log_take] using hd⟩
  · intro t ht
    exact h.detached t (by simpa [log_take] using ht)

theorem IsBooked.take (h : e.IsBooked) (hx : e.Allows x) : (e.take x).IsBooked := by
  cases x with
  | subscribed ticket listener =>
    obtain ⟨hopen, rfl⟩ := hx
    exact h.take_subscribed hopen
  | released ticket => exact h.take_released hx
  | detached ticket => exact h.take_detached hx
  | closed => exact h.take_closed
  | began fire payload => exact h.of_same (log_take e _) rfl rfl nofun nofun rfl rfl rfl
  | called fire listener payload =>
    obtain ⟨rest, outer, hrounds⟩ := hx
    refine h.of_same (log_take e _) rfl rfl nofun nofun ?_ ?_ ?_ <;> rw [Emission.take, hrounds]
  | finished fire => exact h.of_same (log_take e _) rfl rfl nofun nofun rfl rfl rfl

/-- Who listens is settled by what happened, in every state that is reached. -/
theorem IsReached.booked (h : e.IsReached) : e.IsBooked := by
  induction h with
  | new => exact ⟨iff_of_true rfl List.not_mem_nil, rfl, rfl, nofun, List.nodup_nil, nofun, nofun⟩
  | take _ hx ih => exact ih.take hx

/-! ## Who is called -/

/-- The calls that a fire has still to make. -/
def toCall (fire : Nat) (rounds : List (Round α β)) : List ((Nat × α) × β) :=
  rounds.flatMap fun r => if r.fire = fire then r.rest.map fun s => (s, r.payload) else []

theorem toCall_cons (fire : Nat) (r : Round α β) (outer : List (Round α β)) :
    toCall fire (r :: outer) = (if r.fire = fire then r.rest.map fun s => (s, r.payload) else []) ++ toCall fire outer :=
  List.flatMap_cons

theorem toCall_of_not_mem {fire : Nat} {rounds : List (Round α β)} (h : ∀ r ∈ rounds, r.fire ≠ fire) : toCall fire rounds = [] :=
  List.flatMap_eq_nil_iff.mpr fun r hr => if_neg (h r hr)

/-- Every fire calls those that listened when it began, with its payload: the calls that it has made are the first of them, and those
that it has still to make the rest. -/
structure IsDelivered (e : Emission α β) : Prop where
  began : ∀ n p, .began n p ∈ e.log → n < e.fires
  begun : ∀ n < e.fires, ∃ p, .began n p ∈ e.log
  called : ∀ n s p, .called n s p ∈ e.log → n < e.fires
  finished : ∀ n, .finished n ∈ e.log → n < e.fires ∧ ∀ r ∈ e.rounds, r.fire ≠ n
  rounds : ∀ r ∈ e.rounds, r.fire < e.fires
  distinct : (e.rounds.map Round.fire).Nodup
  delivered : ∀ before n p later, e.log = before ++ .began n p :: later → .closed ∉ before ∧ callsOf n before = [] ∧
    callsOf n later ++ toCall n e.rounds = (registered before).map fun s => (s, p)

theorem split_concat {γ : Type} {log before later : List γ} {x y : γ} (h : log ++ [x] = before ++ y :: later) :
    (before = log ∧ y = x ∧ later = []) ∨ ∃ rest, later = rest ++ [x] ∧ log = before ++ y :: rest := by
  rcases List.eq_nil_or_concat later with rfl | ⟨rest, last, rfl⟩
  · obtain ⟨rfl, hx⟩ := List.append_inj' h rfl
    exact .inl ⟨rfl, (List.singleton_inj.mp hx).symm, rfl⟩
  · have hsplit : log ++ [x] = (before ++ y :: rest) ++ [last] := by simpa using h
    obtain ⟨rfl, hx⟩ := List.append_inj' hsplit rfl
    obtain rfl := List.singleton_inj.mp hx
    exact .inr ⟨rest, List.concat_eq_append, rfl⟩

/-- Whatever is not a fire that begins goes on with the fires that have begun. -/
theorem IsDelivered.delivered_concat (h : e.IsDelivered) {rounds : List (Round α β)} (hx : ∀ n p, x ≠ .began n p)
    (hrounds : ∀ n, (x.callOf? n).toList ++ toCall n rounds = toCall n e.rounds) :
    ∀ before n p later, e.log ++ [x] = before ++ .began n p :: later → .closed ∉ before ∧ callsOf n before = [] ∧
      callsOf n later ++ toCall n rounds = (registered before).map fun s => (s, p) := by
  intro before n p later hlog
  rcases split_concat hlog with ⟨-, heq, -⟩ | ⟨rest, rfl, hold⟩
  · exact absurd heq.symm (hx n p)
  · obtain ⟨hclosed, hnone, hcalls⟩ := h.delivered before n p rest hold
    refine ⟨hclosed, hnone, ?_⟩
    rw [callsOf, filterMap_concat, List.append_assoc, hrounds]
    exact hcalls

/-- What has nothing to do with a fire leaves all this as it is. -/
theorem IsDelivered.of_same {e' : Emission α β} (h : e.IsDelivered) (hlog : e'.log = e.log ++ [x]) (hrounds : e'.rounds = e.rounds)
    (hfires : e'.fires = e.fires) (hbegan : ∀ n p, x ≠ .began n p) (hcalled : ∀ n s p, x ≠ .called n s p)
    (hfinished : ∀ n, x ≠ .finished n) : e'.IsDelivered := by
  have hmem {y : Occurrence α β} (hy : y ∈ e.log ++ [x]) (hne : x ≠ y) : y ∈ e.log := by simpa [Ne.symm hne] using hy
  have hcall (n : Nat) : x.callOf? n = none := by
    cases x with
    | called m s p => exact absurd rfl (hcalled m s p)
    | _ => rfl
  constructor
  · intro n p hn
    rw [hlog] at hn
    exact hfires ▸ h.began n p (hmem hn (hbegan n p))
  · intro n hn
    rw [hfires] at hn
    obtain ⟨p, hp⟩ := h.begun n hn
    exact ⟨p, hlog ▸ List.mem_append_left _ hp⟩
  · intro n s p hn
    rw [hlog] at hn
    exact hfires ▸ h.called n s p (hmem hn (hcalled n s p))
  · intro n hn
    rw [hlog] at hn
    rw [hfires, hrounds]
    exact h.finished n (hmem hn (hfinished n))
  · rw [hrounds, hfires]
    exact h.rounds
  · rw [hrounds]
    exact h.distinct
  · rw [hlog, hrounds]
    exact h.delivered_concat hbegan fun n => by rw [hcall]; rfl

theorem IsDelivered.take_began (h : e.IsDelivered) (hb : e.IsBooked) (hopen : e.isOpen = true) (payload : β) :
    (e.take (.began e.fires payload)).IsDelivered := by
  have hclosed := hb.open_iff.mp hopen
  have hnocall : callsOf e.fires e.log = [] := by
    refine List.filterMap_eq_nil_iff.mpr fun y hy => ?_
    cases y with
    | called m s p => exact if_neg (Nat.ne_of_lt (h.called m s p hy))
    | _ => rfl
  constructor
  · intro n p hn
    rw [log_take] at hn
    rcases List.mem_append.mp hn with hn | hn
    · exact Nat.lt_succ_of_lt (h.began n p hn)
    · obtain ⟨rfl, -⟩ := Occurrence.began.inj (List.mem_singleton.mp hn)
      exact Nat.lt_succ_self _
  · intro n hn
    rw [log_take]
    rcases Nat.lt_succ_iff_lt_or_eq.mp hn with hn | rfl
    · obtain ⟨p, hp⟩ := h.begun n hn
      exact ⟨p, List.mem_append_left _ hp⟩
    · exact ⟨payload, by simp⟩
  · intro n s p hn
    exact Nat.lt_succ_of_lt (h.called n s p (by simpa [log_take] using hn))
  · intro n hn
    obtain ⟨hlt, hrounds⟩ := h.finished n (by simpa [log_take] using hn)
    refine ⟨Nat.lt_succ_of_lt hlt, fun r hr => ?_⟩
    rcases List.mem_cons.mp hr with rfl | hr
    · exact Nat.ne_of_gt hlt
    · exact hrounds r hr
  · intro r hr
    rcases List.mem_cons.mp hr with rfl | hr
    · exact Nat.lt_succ_self _
    · exact Nat.lt_succ_of_lt (h.rounds r hr)
  · refine List.nodup_cons.mpr ⟨fun hmem => ?_, h.distinct⟩
    obtain ⟨r, hr, heq⟩ := List.mem_map.mp hmem
    exact Nat.ne_of_lt (h.rounds r hr) heq
  · intro before n p later hlog
    rw [log_take] at hlog
    have hrounds : (e.take (.began e.fires payload)).rounds = ⟨e.fires, payload, e.channel.listeners⟩ :: e.rounds := rfl
    rw [hrounds, toCall_cons]
    rcases split_concat hlog with ⟨rfl, heq, rfl⟩ | ⟨rest, rfl, hold⟩
    · obtain ⟨rfl, rfl⟩ := Occurrence.began.inj heq
      refine ⟨hclosed, hnocall, ?_⟩
      rw [if_pos rfl, toCall_of_not_mem fun r hr => Nat.ne_of_lt (h.rounds r hr), hb.listeners, whileOpen_of_not_mem hclosed,
        List.append_nil]
      rfl
    · obtain ⟨hclosed, hnone, hcalls⟩ := h.delivered before n p rest hold
      have hlt : n < e.fires := h.began n p (by rw [hold]; simp)
      refine ⟨hclosed, hnone, ?_⟩
      rw [if_neg (Nat.ne_of_gt hlt), callsOf, filterMap_concat, ← hcalls]
      simp [callOf?, callsOf]

theorem IsDelivered.take_called (h : e.IsDelivered) {n : Nat} {s : Nat × α} {p : β} {rest : List (Nat × α)}
    {outer : List (Round α β)} (hx : e.rounds = ⟨n, p, s :: rest⟩ :: outer) : (e.take (.called n s p)).IsDelivered := by
  have htake : e.take (.called n s p) = { e with log := e.log ++ [.called n s p], rounds := ⟨n, p, rest⟩ :: outer } := by
    rw [take, hx]
    rfl
  have hn : n < e.fires := h.rounds ⟨n, p, s :: rest⟩ (by rw [hx]; exact List.mem_cons_self)
  have hrounds (r : Round α β) (hr : r ∈ (⟨n, p, rest⟩ :: outer : List (Round α β))) : ∃ r' ∈ e.rounds, r'.fire = r.fire := by
    rw [hx]
    rcases List.mem_cons.mp hr with rfl | hr
    · exact ⟨_, List.mem_cons_self, rfl⟩
    · exact ⟨r, List.mem_cons_of_mem _ hr, rfl⟩
  rw [htake]
  constructor
  · intro m q hm
    exact h.began m q (by simpa using hm)
  · intro m hm
    obtain ⟨q, hq⟩ := h.begun m hm
    exact ⟨q, List.mem_append_left _ hq⟩
  · intro m t q hm
    rcases List.mem_append.mp hm with hm | hm
    · exact h.called m t q hm
    · obtain ⟨rfl, -⟩ := Occurrence.called.inj (List.mem_singleton.mp hm)
      exact hn
  · intro m hm
    obtain ⟨hlt, hnot⟩ := h.finished m (by simpa using hm)
    refine ⟨hlt, fun r hr => ?_⟩
    obtain ⟨r', hr', heq⟩ := hrounds r hr
    exact heq ▸ hnot r' hr'
  · intro r hr
    obtain ⟨r', hr', heq⟩ := hrounds r hr
    exact heq ▸ h.rounds r' hr'
  · have hdistinct := h.distinct
    rw [hx] at hdistinct
    exact hdistinct
  · refine h.delivered_concat nofun fun m => ?_
    rw [hx, toCall_cons, toCall_cons, ← List.append_assoc]
    by_cases hm : n = m <;> simp [callOf?, hm]

theorem IsDelivered.take_finished (h : e.IsDelivered) {n : Nat} {p : β} {outer : List (Round α β)} (hx : e.rounds = ⟨n, p, []⟩ :: outer) :
    (e.take (.finished n)).IsDelivered := by
  have htake : e.take (.finished n) = { e with log := e.log ++ [.finished n], rounds := outer } := by
    rw [take, hx]
    rfl
  have hdistinct := h.distinct
  rw [hx] at hdistinct
  obtain ⟨hnot, houter⟩ := List.nodup_cons.mp hdistinct
  have hrounds (r : Round α β) (hr : r ∈ outer) : r ∈ e.rounds := hx ▸ List.mem_cons_of_mem _ hr
  rw [htake]
  constructor
  · intro m q hm
    exact h.began m q (by simpa using hm)
  · intro m hm
    obtain ⟨q, hq⟩ := h.begun m hm
    exact ⟨q, List.mem_append_left _ hq⟩
  · intro m t q hm
    exact h.called m t q (by simpa using hm)
  · intro m hm
    rcases List.mem_append.mp hm with hm | hm
    · exact ⟨(h.finished m hm).1, fun r hr => (h.finished m hm).2 r (hrounds r hr)⟩
    · obtain rfl := Occurrence.finished.inj (List.mem_singleton.mp hm)
      refine ⟨h.rounds ⟨m, p, []⟩ (by rw [hx]; exact List.mem_cons_self), fun r hr heq => hnot ?_⟩
      exact List.mem_map.mpr ⟨r, hr, heq⟩
  · exact fun r hr => h.rounds r (hrounds r hr)
  · exact houter
  · refine h.delivered_concat nofun fun m => ?_
    rw [hx, toCall_cons]
    by_cases hm : n = m <;> simp [callOf?, hm]

theorem IsDelivered.take (h : e.IsDelivered) (hb : e.IsBooked) (hx : e.Allows x) : (e.take x).IsDelivered := by
  cases x with
  | began n p =>
    obtain ⟨hopen, rfl⟩ := hx
    exact h.take_began hb hopen p
  | called n s p =>
    obtain ⟨rest, outer, hrounds⟩ := hx
    exact h.take_called hrounds
  | finished n =>
    obtain ⟨p, outer, hrounds⟩ := hx
    exact h.take_finished hrounds
  | _ => exact h.of_same (log_take e _) rfl rfl nofun nofun nofun

/-- Who is called is settled by what happened, in every state that is reached. -/
theorem IsReached.delivered (h : e.IsReached) : e.IsDelivered := by
  induction h with
  | new => exact ⟨nofun, nofun, nofun, nofun, nofun, List.nodup_nil, fun before n p later hlog => by simp at hlog⟩
  | take h hx ih => exact ih.take h.booked hx

/-! ## What follows -/

/-- No ticket is listed twice. -/
theorem IsReached.distinct (h : e.IsReached) : (e.channel.listeners.map Prod.fst).Nodup := by
  have hmade : ((e.log.filterMap made?).map Prod.fst).Nodup := h.booked.tickets ▸ List.nodup_range
  have hsub : (registered (whileOpen e.log)).Sublist (e.log.filterMap made?) :=
    List.filter_sublist.trans ((List.takeWhile_sublist _).filterMap made?)
  rw [h.booked.listeners]
  exact hmade.sublist (hsub.map Prod.fst)

/-- Who has a ticket is the only one that is removed by it. -/
theorem IsReached.remove_eq (h : e.IsReached) {t : Nat} {l : α} (hl : (t, l) ∈ e.channel.listeners) :
    ∃ before later, e.channel.listeners = before ++ (t, l) :: later ∧ (e.channel.remove t).listeners = before ++ later := by
  obtain ⟨before, later, hlist⟩ := List.append_of_mem hl
  have hdistinct := h.distinct
  rw [hlist, List.map_append, List.map_cons, List.nodup_append] at hdistinct
  obtain ⟨-, hlater, hbefore⟩ := hdistinct
  have hbefore' : (before.filter fun s => s.1 ≠ t) = before := by
    refine List.filter_eq_self.mpr fun s hs => decide_eq_true ?_
    exact hbefore s.1 (List.mem_map_of_mem hs) t List.mem_cons_self
  have hlater' : (later.filter fun s => s.1 ≠ t) = later := by
    refine List.filter_eq_self.mpr fun s hs => decide_eq_true fun heq => ?_
    exact (List.nodup_cons.mp hlater).1 (List.mem_map.mpr ⟨s, hs, heq⟩)
  refine ⟨before, later, hlist, ?_⟩
  rw [Channel.remove, hlist, List.filter_append, hbefore', List.filter_cons_of_neg (by simp), hlater']

/-- A ticket that nobody has removes nobody. -/
theorem remove_of_not_mem {c : Channel α} {t : Nat} (h : t ∉ c.listeners.map Prod.fst) : c.remove t = c := by
  have hsame : (c.listeners.filter fun s => s.1 ≠ t) = c.listeners := by
    refine List.filter_eq_self.mpr fun s hs => decide_eq_true fun heq => h ?_
    exact List.mem_map.mpr ⟨s, hs, heq⟩
  rw [Channel.remove, hsame]

/-- Whatever happens once the channel was given up changes nothing of it. -/
theorem take_of_closed (hopen : e.isOpen = false) (hx : e.Allows x) :
    (e.take x).channel = e.channel ∧ (e.take x).isOpen = false ∧ (e.take x).fires = e.fires := by
  have hno : e.isOpen ≠ true := by simp [hopen]
  cases x with
  | subscribed t l => exact absurd hx.1 hno
  | released t => exact ⟨if_neg hno, hopen, rfl⟩
  | detached t => exact ⟨rfl, hopen, rfl⟩
  | closed => exact absurd hx hno
  | began n p => exact absurd hx.1 hno
  | called n s p =>
    obtain ⟨rest, outer, hrounds⟩ := hx
    rw [take, hrounds]
    exact ⟨rfl, hopen, rfl⟩
  | finished n => exact ⟨rfl, hopen, rfl⟩

/-- A call belongs to a fire that has begun before, with its payload. -/
theorem IsReached.began_of_called (h : e.IsReached) {n : Nat} {s : Nat × α} {p : β} (hcall : .called n s p ∈ e.log) :
    ∃ before later, e.log = before ++ .began n p :: later ∧ .called n s p ∈ later := by
  obtain ⟨q, hq⟩ := h.delivered.begun n (h.delivered.called n s p hcall)
  obtain ⟨before, later, hlog⟩ := List.append_of_mem hq
  obtain ⟨-, hnone, hcalls⟩ := h.delivered.delivered before n q later hlog
  have hmem : (s, p) ∈ callsOf n later := by
    rw [hlog] at hcall
    rcases List.mem_append.mp hcall with hb | hl
    · have hb' : (s, p) ∈ callsOf n before := List.mem_filterMap.mpr ⟨_, hb, if_pos rfl⟩
      rw [hnone] at hb'
      exact absurd hb' List.not_mem_nil
    · exact List.mem_filterMap.mpr ⟨.called n s p, by simpa using hl, if_pos rfl⟩
  have hlisted : (s, p) ∈ (registered before).map fun s => (s, q) := hcalls ▸ List.mem_append_left _ hmem
  obtain ⟨s', -, heq⟩ := List.mem_map.mp hlisted
  obtain ⟨-, rfl⟩ := Prod.mk.inj heq
  refine ⟨before, later, hlog, ?_⟩
  obtain ⟨y, hy, hcall'⟩ := List.mem_filterMap.mp hmem
  cases y with
  | called m s' p' =>
    obtain ⟨rfl, heq'⟩ := Option.ite_none_right_eq_some.mp hcall'
    obtain ⟨rfl, rfl⟩ := Prod.mk.inj (Option.some.inj heq')
    exact hy
  | _ => cases hcall'

/-- A fire calls nobody who subscribed after it began, and nobody whose subscription had ended before. -/
theorem IsReached.not_called (h : e.IsReached) {before later : List (Occurrence α β)} {n : Nat} {p : β}
    (hlog : e.log = before ++ .began n p :: later) {t : Nat}
    (ht : (∃ l, .subscribed t l ∈ later) ∨ .released t ∈ before) : ∀ call ∈ callsOf n later, call.1.1 ≠ t := by
  rintro ⟨s, q⟩ hcall rfl
  obtain ⟨-, -, hcalls⟩ := h.delivered.delivered before n p later hlog
  have hlisted : (s, q) ∈ (registered before).map fun s => (s, p) := hcalls ▸ List.mem_append_left _ hcall
  obtain ⟨s', hs, heq⟩ := List.mem_map.mp hlisted
  obtain ⟨rfl, -⟩ := Prod.mk.inj heq
  obtain ⟨hmade, hreleased⟩ := List.mem_filter.mp hs
  rcases ht with ⟨l, hl⟩ | hgone
  · have hdistinct : ((e.log.filterMap made?).map Prod.fst).Nodup := h.booked.tickets ▸ List.nodup_range
    rw [hlog, List.filterMap_append, List.map_append, List.nodup_append] at hdistinct
    refine hdistinct.2.2 s'.1 (List.mem_map_of_mem hmade) s'.1 ?_ rfl
    exact List.mem_map.mpr ⟨(s'.1, l), List.mem_filterMap.mpr ⟨_, List.mem_cons_of_mem _ hl, rfl⟩, rfl⟩
  · exact of_decide_eq_true hreleased (mem_released_iff.mpr hgone)

end Emission

end Colloquy
