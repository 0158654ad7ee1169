import Colloquy.Proofs.Notice.Delivery
import Colloquy.Notice.Audience

/-!
# Audiences

What the steps of an audience come to is said as occurrences (`Audience.Happens`): a fire begins, makes a call to each listener, and
ends, and a listener that is called for the first time takes its own steps before the next one is called. All of this can happen on a
channel, it is what an audience does, and there is always an end to it (`Audience.tells_playFrom`). So the listeners of an audience are
called as they stood when a fire began (`listeners_called_as_they_stood`).
-/

namespace Colloquy

open Emission Occurrence

namespace Occurrence

/-- What is heard of the calls: who was called, and with what. -/
def heardOf {α β : Type} (log : List (Occurrence α β)) : List (α × β) :=
  log.filterMap fun
    | .called _ listener payload => some (listener.2, payload)
    | _ => none

theorem heardOf_append {α β : Type} (log log' : List (Occurrence α β)) : heardOf (log ++ log') = heardOf log ++ heardOf log' :=
  List.filterMap_append

end Occurrence

/-- Whether a step is of no use once the channel was given up. -/
def ChannelStep.needsChannel : ChannelStep → Bool
  | .subscribe _ _ => true
  | .fire _ => true
  | .close => true
  | _ => false

namespace Audience

/-! ## What steps come to -/

/-- What holders keep in mind: the ticket of the subscription under each name, and what listeners do when they are first called. -/
structure Book where
  kept : List (String × Nat) := []
  reactions : List (Nat × List ChannelStep) := []

/-- What is done: a step, some steps one after the other, or the calls that a fire has still to make. -/
inductive Doing where
  | step (s : ChannelStep)
  | steps (all : List ChannelStep)
  | calls (fire : Nat) (payload : String) (listeners : List (Nat × String))

/-- What happens on a channel, one thing after the other, when something is done.
- A subscription is registered, and then the one is released that was kept under the same name. To release or to detach is about the
  subscription under a name, if there is one.
- A fire begins, calls those that listen at this moment, and is finished. A listener that is called for the first time takes its steps,
  as they are kept in mind for it, before anyone else is called.
- Nothing happens where the channel would be needed and was given up. -/
inductive Happens : Emission String String → Book → Doing → List (Occurrence String String) → Book → Prop where
  | subscribe {e : Emission String String} {b : Book} {name : String} {reaction : List ChannelStep} (hopen : e.isOpen = true) :
    Happens e b (.step (.subscribe name reaction))
      (.subscribed e.channel.nextTicket name :: (b.kept.lookup name).toList.map .released)
      ⟨(b.kept.filter fun k => k.1 ≠ name) ++ [(name, e.channel.nextTicket)], b.reactions ++ [(e.channel.nextTicket, reaction)]⟩
  | release {e : Emission String String} {b : Book} {name : String} :
    Happens e b (.step (.release name)) ((b.kept.lookup name).toList.map .released)
      ⟨b.kept.filter fun k => k.1 ≠ name, b.reactions⟩
  | detach {e : Emission String String} {b : Book} {name : String} :
    Happens e b (.step (.detach name)) ((b.kept.lookup name).toList.map .detached)
      ⟨b.kept.filter fun k => k.1 ≠ name, b.reactions⟩
  | inspect {e : Emission String String} {b : Book} {name : String} : Happens e b (.step (.inspect name)) [] b
  | fire {e : Emission String String} {b b' : Book} {payload : String} {log : List (Occurrence String String)} (hopen : e.isOpen = true)
      (hcalls : Happens (e.take (.began e.fires payload)) b (.calls e.fires payload e.channel.listeners) log b') :
    Happens e b (.step (.fire payload)) (.began e.fires payload :: (log ++ [.finished e.fires])) b'
  | close {e : Emission String String} {b : Book} (hopen : e.isOpen = true) : Happens e b (.step .close) [.closed] b
  | gone {e : Emission String String} {b : Book} {s : ChannelStep} (hclosed : e.isOpen = false) (hs : s.needsChannel = true) :
    Happens e b (.step s) [] b
  | noSteps {e : Emission String String} {b : Book} : Happens e b (.steps []) [] b
  | moreSteps {e : Emission String String} {b b' b'' : Book} {s : ChannelStep} {rest : List ChannelStep}
      {log log' : List (Occurrence String String)} (hs : Happens e b (.step s) log b')
      (hrest : Happens (log.foldl Emission.take e) b' (.steps rest) log' b'') :
    Happens e b (.steps (s :: rest)) (log ++ log') b''
  | noCalls {e : Emission String String} {b : Book} {n : Nat} {payload : String} : Happens e b (.calls n payload []) [] b
  | call {e : Emission String String} {b b' : Book} {n : Nat} {payload : String} {l : Nat × String} {rest : List (Nat × String)}
      {log : List (Occurrence String String)} (hsilent : b.reactions.lookup l.1 = none)
      (hrest : Happens (e.take (.called n l payload)) b (.calls n payload rest) log b') :
    Happens e b (.calls n payload (l :: rest)) (.called n l payload :: log) b'
  | firstCall {e : Emission String String} {b b' b'' : Book} {n : Nat} {payload : String} {l : Nat × String}
      {rest : List (Nat × String)} {reaction : List ChannelStep} {log log' : List (Occurrence String String)}
      (hreacts : b.reactions.lookup l.1 = some reaction)
      (hreaction : Happens (e.take (.called n l payload)) ⟨b.kept, b.reactions.filter fun r => r.1 ≠ l.1⟩ (.steps reaction) log b')
      (hrest : Happens (log.foldl Emission.take (e.take (.called n l payload))) b' (.calls n payload rest) log' b'') :
    Happens e b (.calls n payload (l :: rest)) (.called n l payload :: (log ++ log')) b''

/-- What comes of a step. -/
def answerOf (e : Emission String String) (b : Book) : ChannelStep → ChannelAnswer
  | .subscribe name _ => if e.isOpen then .subscribed (b.kept.lookup name).isSome else .gone
  | .release name => .found (b.kept.lookup name).isSome
  | .detach name => .found (b.kept.lookup name).isSome
  | .inspect name => .seen (b.kept.lookup name).isSome
  | .fire _ => if e.isOpen then .fired else .gone
  | .close => .found e.isOpen

/-- Records tell of some steps, each from where the one before left the channel: what came of it, the calls that were heard, and the
number of listeners while the channel is held. What happens with each step can happen on the channel, and no fire is left under way by
it. -/
def Tells (e : Emission String String) (b : Book) : List ChannelStep → List Record → Prop
  | [], [] => True
  | s :: rest, r :: records => ∃ log b', Happens e b (.step s) log b' ∧ e.AllowsAll log ∧
      (log.foldl Emission.take e).rounds = e.rounds ∧ r.answer = answerOf e b s ∧ r.heard = heardOf log ∧
      r.count = (if (log.foldl Emission.take e).isOpen then some (registered (log.foldl Emission.take e).log).length else none) ∧
      Tells (log.foldl Emission.take e) b' rest records
  | _, _ => False

/-! ## Where an audience is -/

/-- An audience is in the state of a channel on which something happened, and keeps the subscriptions that are held. -/
structure Shows (a : Audience) (e : Emission String String) : Prop where
  reached : e.IsReached
  channel : a.channel = e.channel
  isOpen : a.isOpen = e.isOpen
  kept : (a.kept.map Prod.snd).Perm e.held
  names : (a.kept.map Prod.fst).Nodup

/-- What an audience keeps in mind. -/
def book (a : Audience) : Book :=
  ⟨a.kept, a.reactions⟩

/-- From where an audience is something happens that leads to where another one is, and that is heard. -/
structure Leads (a : Audience) (e : Emission String String) (log : List (Occurrence String String)) (a' : Audience)
    (rounds : List (Round String String)) : Prop where
  allowed : e.AllowsAll log
  shows : a'.Shows (log.foldl Emission.take e)
  rounds : (log.foldl Emission.take e).rounds = rounds
  heard : a'.heard = a.heard ++ heardOf log

variable {a a' a'' : Audience} {e : Emission String String} {x : Occurrence String String}
  {log log' : List (Occurrence String String)} {rounds rounds' : List (Round String String)}

theorem leads_nil (h : a'.Shows e) (hheard : a'.heard = a.heard) : Leads a e [] a' e.rounds :=
  ⟨trivial, h, rfl, hheard.trans (List.append_nil _).symm⟩

/-- Something happens first. -/
theorem leads_cons (a' : Audience) (hx : e.Allows x) (hheard : a'.heard = a.heard ++ heardOf [x])
    (h : Leads a' (e.take x) log a'' rounds) : Leads a e (x :: log) a'' rounds where
  allowed := ⟨hx, h.allowed⟩
  shows := h.shows
  rounds := h.rounds
  heard := by
    rw [h.heard, hheard, List.append_assoc, ← heardOf_append]
    rfl

/-- Something happens, and no more. -/
theorem leads_single (hx : e.Allows x) (h : a'.Shows (e.take x)) (hheard : a'.heard = a.heard ++ heardOf [x]) :
    Leads a e [x] a' (e.take x).rounds :=
  leads_cons a' hx hheard (leads_nil h rfl)

theorem Leads.append (h : Leads a e log a' rounds) (h' : Leads a' (log.foldl Emission.take e) log' a'' rounds') :
    Leads a e (log ++ log') a'' rounds' where
  allowed := allowsAll_append.mpr ⟨h.allowed, h'.allowed⟩
  shows := by
    rw [List.foldl_append]
    exact h'.shows
  rounds := by
    rw [List.foldl_append]
    exact h'.rounds
  heard := by rw [h'.heard, h.heard, List.append_assoc, heardOf_append]

/-- An audience does something, which happens on the channel and leads to where the audience is then. -/
def Does (a : Audience) (e : Emission String String) (d : Doing) (a' : Audience) (rounds : List (Round String String)) : Prop :=
  ∃ log, Happens e a.book d log a'.book ∧ Leads a e log a' rounds

/-- A subscription that is kept under a name is taken out, and no other one. -/
theorem takeOut_cases {kept : List (String × Nat)} (hnames : (kept.map Prod.fst).Nodup) (name : String) :
    (kept.lookup name = none ∧ (kept.filter fun k => k.1 ≠ name) = kept) ∨
      ∃ t, kept.lookup name = some t ∧ (kept.map Prod.snd).Perm (t :: (kept.filter fun k => k.1 ≠ name).map Prod.snd) := by
  induction kept with
  | nil => exact .inl ⟨rfl, rfl⟩
  | cons k rest ih =>
    obtain ⟨name', t⟩ := k
    obtain ⟨hnot, hrest⟩ := List.nodup_cons.mp hnames
    by_cases hname : name = name'
    · subst hname
      have hkept : (rest.filter fun k => k.1 ≠ name) = rest := by
        refine List.filter_eq_self.mpr fun k hk => decide_eq_true fun heq => hnot ?_
        exact List.mem_map.mpr ⟨k, hk, heq⟩
      refine .inr ⟨t, List.lookup_cons_self, ?_⟩
      rw [List.filter_cons_of_neg (by simp), hkept]
      exact .refl _
    · have hlookup : ((name', t) :: rest).lookup name = rest.lookup name := by
        rw [List.lookup_cons, beq_eq_false_iff_ne.mpr hname]
      rw [hlookup, List.filter_cons_of_pos (by simpa using Ne.symm hname)]
      rcases ih hrest with ⟨hnone, hsame⟩ | ⟨t', hsome, hperm⟩
      · exact .inl ⟨hnone, by rw [hsame]⟩
      · exact .inr ⟨t', hsome, (hperm.cons t).trans (List.Perm.swap t' t _)⟩

/-- A subscription is ended that is held, but no longer kept. -/
theorem shows_remove {t : Nat} (he : e.IsReached) (hchannel : a.channel = e.channel) (hopen : a.isOpen = e.isOpen) (ht : t ∈ e.held)
    (hkept : (a.kept.map Prod.snd).Perm (e.held.erase t)) (hnames : (a.kept.map Prod.fst).Nodup) :
    (a.remove t).Shows (e.take (.released t)) := by
  unfold Audience.remove
  split
  next hyes =>
    have hopen' : e.isOpen = true := hopen ▸ hyes
    exact ⟨.take he ht, by simp [Emission.take, hopen', hchannel], hopen, hkept, hnames⟩
  next hno =>
    have hopen' : e.isOpen = false := by simpa [hopen] using hno
    exact ⟨.take he ht, by simp [Emission.take, hopen', hchannel], hopen, hkept, hnames⟩

/-- A subscription is taken out and ended, or taken out and given up. -/
theorem Shows.takeOut (h : a.Shows e) (name : String) :
    ((a.takeOut name).1 = none ∧ (a.takeOut name).2.Shows e) ∨
      ∃ t, (a.takeOut name).1 = some t ∧ t ∈ e.held ∧ ((a.takeOut name).2.remove t).Shows (e.take (.released t)) ∧
        (a.takeOut name).2.Shows (e.take (.detached t)) := by
  have hnames : ((a.kept.filter fun k => k.1 ≠ name).map Prod.fst).Nodup := h.names.sublist (List.filter_sublist.map _)
  rcases takeOut_cases h.names name with ⟨hnone, hsame⟩ | ⟨t, hsome, hperm⟩
  · exact .inl ⟨hnone, h.reached, h.channel, h.isOpen, by rw [Audience.takeOut, hsame]; exact h.kept, hnames⟩
  · have hheld : t ∈ e.held := (hperm.symm.trans h.kept).subset List.mem_cons_self
    have hkept : ((a.kept.filter fun k => k.1 ≠ name).map Prod.snd).Perm (e.held.erase t) := by
      have herase := (hperm.symm.trans h.kept).erase t
      rwa [List.erase_cons_head] at herase
    exact .inr ⟨t, hsome, hheld, shows_remove h.reached h.channel h.isOpen hheld hkept hnames,
      .take h.reached hheld, h.channel, h.isOpen, hkept, hnames⟩

theorem heard_remove (a : Audience) (t : Nat) : (a.remove t).heard = a.heard := by
  unfold remove
  split <;> rfl

theorem book_remove (a : Audience) (t : Nat) : (a.remove t).book = a.book := by
  unfold remove
  split <;> rfl

/-! ## How much is still to be done -/

/-- The steps of listeners that have still to take them. -/
def pendingOf : List (Nat × List ChannelStep) → Nat
  | [] => 0
  | r :: rest => ChannelStep.sizes r.2 + pendingOf rest

/-- The steps that listeners have still to take. -/
def Book.pending (b : Book) : Nat :=
  pendingOf b.reactions

theorem pendingOf_append (rs more : List (Nat × List ChannelStep)) : pendingOf (rs ++ more) = pendingOf rs + pendingOf more := by
  induction rs with
  | nil => exact (Nat.zero_add _).symm
  | cons r rs ih => rw [List.cons_append, pendingOf, pendingOf, ih, Nat.add_assoc]

theorem pendingOf_filter_le (rs : List (Nat × List ChannelStep)) (p : Nat × List ChannelStep → Bool) :
    pendingOf (rs.filter p) ≤ pendingOf rs := by
  induction rs with
  | nil => exact Nat.le_refl _
  | cons r rs ih =>
    cases hp : p r with
    | true =>
      rw [List.filter_cons_of_pos hp]
      exact Nat.add_le_add_left ih _
    | false =>
      rw [List.filter_cons_of_neg (by simp [hp])]
      exact ih.trans (Nat.le_add_left _ _)

/-- The steps that something done may take, those of the listeners included that it subscribes. -/
def Doing.size : Doing → Nat
  | .step s => s.size
  | .steps all => ChannelStep.sizes all
  | .calls _ _ _ => 0

theorem size_pos (s : ChannelStep) : 0 < s.size := by
  cases s with
  | subscribe name reaction =>
    rw [ChannelStep.size]
    omega
  | _ => simp [ChannelStep.size]

/-- The steps of a listener that is called are no longer pending. -/
theorem pending_of_lookup {b : Book} {t : Nat} {reaction : List ChannelStep} (h : b.reactions.lookup t = some reaction) :
    ChannelStep.sizes reaction + Book.pending ⟨b.kept, b.reactions.filter fun r => r.1 ≠ t⟩ ≤ b.pending := by
  obtain ⟨kept, rs⟩ := b
  simp only [Book.pending]
  induction rs with
  | nil => cases h
  | cons r rs ih =>
    obtain ⟨t', steps⟩ := r
    by_cases ht : t = t'
    · subst ht
      obtain rfl : steps = reaction := by simpa using h
      rw [List.filter_cons_of_neg (by simp)]
      exact Nat.add_le_add_left (pendingOf_filter_le rs _) _
    · have hrest : rs.lookup t = some reaction := by rwa [List.lookup_cons, beq_eq_false_iff_ne.mpr ht] at h
      have := ih hrest
      rw [List.filter_cons_of_pos (by simpa using Ne.symm ht)]
      simp only [pendingOf]
      omega

/-- What is done leaves no more steps pending than there were, and those that it brings. -/
theorem Happens.pending_le {b b' : Book} {d : Doing} (h : Happens e b d log b') : b'.pending ≤ b.pending + d.size := by
  induction h with
  | subscribe => simp [Book.pending, pendingOf_append, pendingOf, Doing.size, ChannelStep.size]
  | release => exact Nat.le_add_right _ _
  | detach => exact Nat.le_add_right _ _
  | inspect => exact Nat.le_add_right _ _
  | fire _ _ ih => exact Nat.le_add_right_of_le ih
  | close => exact Nat.le_add_right _ _
  | gone => exact Nat.le_add_right _ _
  | noSteps => exact Nat.le_add_right _ _
  | moreSteps _ _ ih ih' =>
    simp only [Doing.size, ChannelStep.sizes] at ih ih' ⊢
    omega
  | noCalls => exact Nat.le_add_right _ _
  | call _ _ ih => exact ih
  | firstCall hreacts _ _ ih ih' =>
    have := pending_of_lookup hreacts
    simp only [Doing.size] at ih ih' ⊢
    omega

/-! ## What an audience does -/

variable {react : List ChannelStep → Audience → Audience}

theorem does_subscribe (h : a.Shows e) (name : String) (reaction : List ChannelStep) :
    Does a e (.step (.subscribe name reaction)) (step react a (.subscribe name reaction)).2 e.rounds := by
  cases hopen : a.isOpen with
  | false =>
    have hstep : step react a (.subscribe name reaction) = (.gone, a) := by simp [step, hopen]
    rw [hstep]
    exact ⟨[], .gone (h.isOpen ▸ hopen) rfl, leads_nil h rfl⟩
  | true =>
    have hopen' : e.isOpen = true := h.isOpen ▸ hopen
    let ticket := e.channel.nextTicket
    let a' : Audience := { a with
      channel := (e.channel.subscribe name).2
      reactions := a.reactions ++ [(ticket, reaction)]
      kept := (a.kept.filter fun k => k.1 ≠ name) ++ [(name, ticket)] }
    have hstep : (step react a (.subscribe name reaction)).2 = (a.kept.lookup name).elim a' a'.remove := by
      rw [step, if_pos hopen, h.channel]
      rfl
    have hhappens : Happens e a.book (.step (.subscribe name reaction))
        (.subscribed ticket name :: (a.kept.lookup name).toList.map .released) a'.book := .subscribe hopen'
    have hallowed : e.Allows (.subscribed ticket name) := ⟨hopen', rfl⟩
    have hreached : (e.take (.subscribed ticket name)).IsReached := .take h.reached hallowed
    have hkept : a'.kept.map Prod.snd = (a.kept.filter fun k => k.1 ≠ name).map Prod.snd ++ [ticket] := List.map_append
    have hnames : (a'.kept.map Prod.fst).Nodup := by
      have hmap : a'.kept.map Prod.fst = (a.kept.filter fun k => k.1 ≠ name).map Prod.fst ++ [name] := List.map_append
      rw [hmap, List.nodup_append]
      refine ⟨h.names.sublist (List.filter_sublist.map _), List.nodup_singleton name, ?_⟩
      intro n hn n' hn' heq
      obtain ⟨k, hk, rfl⟩ := List.mem_map.mp hn
      exact of_decide_eq_true (List.mem_filter.mp hk).2 (heq.trans (List.mem_singleton.mp hn'))
    rw [hstep]
    rcases takeOut_cases h.names name with ⟨hnone, hsame⟩ | ⟨t, hsome, hperm⟩
    · rw [hnone] at hhappens ⊢
      have hperm : (a'.kept.map Prod.snd).Perm (e.held ++ [ticket]) := by
        rw [hkept, hsame]
        exact h.kept.append_right _
      exact ⟨_, hhappens, leads_single hallowed ⟨hreached, rfl, h.isOpen, hperm, hnames⟩ (List.append_nil _).symm⟩
    · have hheld : t ∈ e.held := (hperm.symm.trans h.kept).subset List.mem_cons_self
      have herase : (e.take (.subscribed ticket name)).held.erase t = e.held.erase t ++ [ticket] := List.erase_append_left _ hheld
      have hperm' : (a'.kept.map Prod.snd).Perm ((e.take (.subscribed ticket name)).held.erase t) := by
        have hrest := (hperm.symm.trans h.kept).erase t
        rw [List.erase_cons_head] at hrest
        rw [hkept, herase]
        exact hrest.append_right _
      have hstill : (e.take (.subscribed ticket name)).Allows (.released t) := List.mem_append_left _ hheld
      have hshows := shows_remove (a := a') hreached rfl h.isOpen hstill hperm' hnames
      rw [hsome] at hhappens ⊢
      rw [← book_remove a' t] at hhappens
      refine ⟨_, hhappens, leads_cons a' hallowed (List.append_nil _).symm (leads_single hstill hshows ?_)⟩
      exact (heard_remove a' t).trans (List.append_nil _).symm

theorem does_release (h : a.Shows e) (name : String) :
    Does a e (.step (.release name)) (step react a (.release name)).2 e.rounds := by
  have hhappens : Happens e a.book (.step (.release name)) ((a.takeOut name).1.toList.map .released) (a.takeOut name).2.book := .release
  have hstep : (step react a (.release name)).2 = (a.takeOut name).1.elim (a.takeOut name).2 (a.takeOut name).2.remove := rfl
  rw [hstep]
  rcases h.takeOut name with ⟨hnone, hshows⟩ | ⟨t, hsome, hheld, hshows, -⟩
  · rw [hnone] at hhappens ⊢
    exact ⟨_, hhappens, leads_nil hshows rfl⟩
  · rw [hsome] at hhappens ⊢
    rw [← book_remove (a.takeOut name).2 t] at hhappens
    exact ⟨_, hhappens, leads_single hheld hshows ((heard_remove _ t).trans (List.append_nil _).symm)⟩

theorem does_detach (h : a.Shows e) (name : String) :
    Does a e (.step (.detach name)) (step react a (.detach name)).2 e.rounds := by
  have hhappens : Happens e a.book (.step (.detach name)) ((a.takeOut name).1.toList.map .detached) (a.takeOut name).2.book := .detach
  have hstep : (step react a (.detach name)).2 = (a.takeOut name).2 := rfl
  rw [hstep]
  rcases h.takeOut name with ⟨hnone, hshows⟩ | ⟨t, hsome, hheld, -, hshows⟩
  · rw [hnone] at hhappens
    exact ⟨_, hhappens, leads_nil hshows rfl⟩
  · rw [hsome] at hhappens
    exact ⟨_, hhappens, leads_single hheld hshows (List.append_nil _).symm⟩

theorem does_close (h : a.Shows e) : Does a e (.step .close) (step react a .close).2 e.rounds := by
  cases hopen : a.isOpen with
  | false =>
    have hstep : (step react a .close).2 = a := by
      simp only [step]
      rw [← hopen]
    rw [hstep]
    exact ⟨[], .gone (h.isOpen ▸ hopen) rfl, leads_nil h rfl⟩
  | true =>
    have hopen' : e.isOpen = true := h.isOpen ▸ hopen
    have hshows : (step react a .close).2.Shows (e.take .closed) := ⟨.take h.reached hopen', h.channel, rfl, h.kept, h.names⟩
    exact ⟨_, .close hopen', leads_single hopen' hshows (List.append_nil _).symm⟩

section Fire

variable {limit : Nat} (hreact : ∀ steps a e, ChannelStep.sizes steps + a.book.pending ≤ limit → a.Shows e →
  Does a e (.steps steps) (react steps a) e.rounds)

include hreact

/-- The calls of a fire are made, one after the other, and each listener reacts before the next one is called. -/
theorem does_calls {n : Nat} {payload : String} (listeners : List (Nat × String)) {outer : List (Round String String)}
    (h : a.Shows e) (hrounds : e.rounds = ⟨n, payload, listeners⟩ :: outer) (hlimit : a.book.pending ≤ limit) :
    Does a e (.calls n payload listeners) (listeners.foldl (call react payload) a) (⟨n, payload, []⟩ :: outer) := by
  induction listeners generalizing a e with
  | nil => exact ⟨[], .noCalls, hrounds ▸ leads_nil h rfl⟩
  | cons l rest ih =>
    have hallowed : e.Allows (.called n l payload) := ⟨rest, outer, hrounds⟩
    have htake : e.take (.called n l payload) =
        { e with log := e.log ++ [.called n l payload], rounds := ⟨n, payload, rest⟩ :: outer } := by
      rw [Emission.take, hrounds]
      rfl
    have hrounds' : (e.take (.called n l payload)).rounds = ⟨n, payload, rest⟩ :: outer := congrArg Emission.rounds htake
    -- the call itself, before the listener does anything
    let called : Audience := { a with heard := a.heard ++ [(l.2, payload)] }
    have hcalled : called.Shows (e.take (.called n l payload)) := by
      have hreached := Emission.IsReached.take h.reached hallowed
      rw [htake] at hreached ⊢
      exact ⟨hreached, h.channel, h.isOpen, h.kept, h.names⟩
    cases hreacts : a.reactions.lookup l.1 with
    | none =>
      have hcall : call react payload a l = called := by
        unfold call
        dsimp only
        rw [hreacts]
      obtain ⟨log, hhappens, hleads⟩ := ih hcalled hrounds' hlimit
      rw [List.foldl_cons, hcall]
      exact ⟨_, .call hreacts hhappens, leads_cons called hallowed rfl hleads⟩
    | some reaction =>
      let reacting : Audience := { called with reactions := a.reactions.filter fun r => r.1 ≠ l.1 }
      have hcall : call react payload a l = react reaction reacting := by
        unfold call
        dsimp only
        rw [hreacts]
      have hpending := pending_of_lookup (b := a.book) hreacts
      obtain ⟨log, hhappens, hleads⟩ := hreact reaction reacting _ (hpending.trans hlimit)
        ⟨hcalled.reached, hcalled.channel, hcalled.isOpen, hcalled.kept, hcalled.names⟩
      have hlater : (react reaction reacting).book.pending ≤ limit := by
        have hle := hhappens.pending_le
        rw [Nat.add_comm] at hle
        exact hle.trans (hpending.trans hlimit)
      obtain ⟨log', hhappens', hleads'⟩ := ih hleads.shows (hleads.rounds.trans hrounds') hlater
      rw [List.foldl_cons, hcall]
      exact ⟨_, .firstCall hreacts hhappens hhappens', leads_cons reacting hallowed rfl (hleads.append hleads')⟩

theorem does_fire (h : a.Shows e) (payload : String) (hlimit : a.book.pending ≤ limit) :
    Does a e (.step (.fire payload)) (step react a (.fire payload)).2 e.rounds := by
  cases hopen : a.isOpen with
  | false =>
    have hstep : step react a (.fire payload) = (.gone, a) := by simp [step, hopen]
    rw [hstep]
    exact ⟨[], .gone (h.isOpen ▸ hopen) rfl, leads_nil h rfl⟩
  | true =>
    have hopen' : e.isOpen = true := h.isOpen ▸ hopen
    have hstep : (step react a (.fire payload)).2 = e.channel.listeners.foldl (call react payload) a := by
      simp [step, hopen, h.channel]
    have hallowed : e.Allows (.began e.fires payload) := ⟨hopen', rfl⟩
    have hshows : a.Shows (e.take (.began e.fires payload)) :=
      ⟨.take h.reached hallowed, h.channel, h.isOpen, h.kept, h.names⟩
    have hbegun : (e.take (.began e.fires payload)).rounds = ⟨e.fires, payload, e.channel.listeners⟩ :: e.rounds := rfl
    obtain ⟨log, hhappens, hleads⟩ := does_calls hreact e.channel.listeners hshows hbegun hlimit
    have hdone : (log.foldl Emission.take (e.take (.began e.fires payload))).Allows (.finished e.fires) :=
      ⟨payload, e.rounds, hleads.rounds⟩
    have hfinished := leads_single hdone ⟨.take hleads.shows.reached hdone, hleads.shows.channel, hleads.shows.isOpen,
      hleads.shows.kept, hleads.shows.names⟩ (List.append_nil _).symm
    have hrounds : ((log.foldl Emission.take (e.take (.began e.fires payload))).take (.finished e.fires)).rounds = e.rounds :=
      congrArg List.tail hleads.rounds
    rw [hrounds] at hfinished
    rw [hstep]
    exact ⟨_, .fire hopen' hhappens, leads_cons a hallowed (List.append_nil _).symm (hleads.append hfinished)⟩

/-- A step of an audience, where the listeners that it may call take their steps. -/
theorem does_step (h : a.Shows e) (s : ChannelStep) (hlimit : a.book.pending ≤ limit) :
    Does a e (.step s) (step react a s).2 e.rounds := by
  cases s with
  | subscribe name reaction => exact does_subscribe h name reaction
  | release name => exact does_release h name
  | detach name => exact does_detach h name
  | inspect name => exact ⟨[], .inspect, leads_nil h rfl⟩
  | fire payload => exact does_fire hreact h payload hlimit
  | close => exact does_close h

end Fire

/-- Listeners take all their steps, at whatever depth, if the limit of the depth is no less than the number of steps still to be
taken. -/
theorem does_react (limit : Nat) (steps : List ChannelStep) (a : Audience) (e : Emission String String)
    (hlimit : ChannelStep.sizes steps + a.book.pending ≤ limit) (h : a.Shows e) :
    Does a e (.steps steps) (Audience.react limit steps a) e.rounds := by
  induction limit generalizing steps a e with
  | zero =>
    cases steps with
    | nil => exact ⟨[], .noSteps, leads_nil h rfl⟩
    | cons s rest =>
      have := size_pos s
      rw [ChannelStep.sizes] at hlimit
      omega
  | succ limit ih =>
    unfold Audience.react
    induction steps generalizing a e with
    | nil => exact ⟨[], .noSteps, leads_nil h rfl⟩
    | cons s rest ihs =>
      have hpos := size_pos s
      rw [ChannelStep.sizes] at hlimit
      obtain ⟨log, hhappens, hleads⟩ := does_step ih h s (by omega)
      have hle := hhappens.pending_le
      rw [Doing.size] at hle
      obtain ⟨log', hhappens', hleads'⟩ := ihs _ _ (by omega) hleads.shows
      rw [hleads.rounds] at hleads'
      exact ⟨_, .moreSteps hhappens hhappens', hleads.append hleads'⟩

/-- What comes of a step is as the channel and the subscriptions kept are at that moment. -/
theorem Shows.answer_eq (h : a.Shows e) (s : ChannelStep) : (step react a s).1 = answerOf e a.book s := by
  cases s with
  | subscribe name reaction =>
    rw [step, answerOf, ← h.isOpen]
    split <;> rfl
  | release name => rfl
  | detach name => rfl
  | inspect name => rfl
  | fire payload =>
    rw [step, answerOf, ← h.isOpen]
    split <;> rfl
  | close => exact congrArg ChannelAnswer.found h.isOpen

/-- While the channel is held, the listeners are counted that have subscribed and not been ended. -/
theorem Shows.count_eq (h : a.Shows e) :
    (if a.isOpen then some a.channel.count else none) = if e.isOpen then some (registered e.log).length else none := by
  have hbooked := h.reached.booked
  rw [h.isOpen]
  split
  next hopen =>
    have hlisteners := hbooked.listeners
    rw [whileOpen_of_not_mem (hbooked.open_iff.mp hopen)] at hlisteners
    rw [h.channel, Channel.count, hlisteners]
  next => rfl

theorem tells_playFrom (limit : Nat) (steps : List ChannelStep) (h : a.Shows e)
    (hlimit : ChannelStep.sizes steps + a.book.pending ≤ limit) : Tells e a.book steps (playFrom limit steps a) := by
  induction steps generalizing a e with
  | nil => trivial
  | cons s rest ih =>
    let deaf : Audience := { a with heard := [] }
    have hdeaf : deaf.Shows e := ⟨h.reached, h.channel, h.isOpen, h.kept, h.names⟩
    have hpos := size_pos s
    rw [ChannelStep.sizes] at hlimit
    have hpending : deaf.book.pending = a.book.pending := rfl
    obtain ⟨log, hhappens, hleads⟩ := does_step (does_react limit) hdeaf s (by omega)
    have hle := hhappens.pending_le
    rw [Doing.size] at hle
    exact ⟨log, _, hhappens, hleads.allowed, hleads.rounds, hdeaf.answer_eq s, hleads.heard, hleads.shows.count_eq,
      ih hleads.shows (by omega)⟩

end Audience

/-- What happens on a channel whose listeners may do whatever they like when they are called, within fires inside one another.
1. The listeners are at every moment the subscriptions that were made and have not been ended, in the order in which they were made, as
   long as the channel is held; one that was given up is never ended. No ticket is listed twice, so the end of a subscription removes
   its own listener and no other, and nobody where there is none.
2. Whatever happens once the channel was given up changes nothing of it.
3. Every fire calls those that listened when it began, once each, in their order, with its payload: what it has called so far and what
   it has still to call are just those, and when it is finished it has called them all. No call is made but by a fire that has begun.
   A fire calls nobody who subscribed after it began, and nobody whose subscription had ended before.
4. Whatever steps are taken on a new channel, and whatever its listeners do when they are first called, the answers, the calls and the
   numbers of listeners that are recorded are those of such a channel, on which each step comes to just what it says (`Audience.Happens`):
   a subscription is registered, ended or given up, or a fire begins, makes a call to each listener, who may take steps of its own then,
   and is finished. -/
theorem listeners_called_as_they_stood {α β : Type} :
    (∀ e : Emission α β, e.IsReached →
      ((e.channel.listeners = registered (whileOpen e.log) ∧ e.channel.count = (registered (whileOpen e.log)).length ∧
          (∀ t, .detached t ∈ e.log → .released t ∉ e.log) ∧ (e.channel.listeners.map Prod.fst).Nodup) ∧
        (∀ t l, (t, l) ∈ e.channel.listeners → ∃ before later, e.channel.listeners = before ++ (t, l) :: later ∧
          (e.channel.remove t).listeners = before ++ later) ∧
        ∀ t, t ∉ e.channel.listeners.map Prod.fst → e.channel.remove t = e.channel) ∧
      (e.isOpen = false → ∀ x, e.Allows x →
        (e.take x).channel = e.channel ∧ (e.take x).isOpen = false ∧ (e.take x).fires = e.fires) ∧
      (∀ before n p later, e.log = before ++ .began n p :: later →
        callsOf n before = [] ∧ callsOf n later ++ toCall n e.rounds = ((registered before).map fun s => (s, p)) ∧
        (.finished n ∈ e.log → callsOf n later = (registered before).map fun s => (s, p)) ∧
        (∀ t l, .subscribed t l ∈ later → ∀ call ∈ callsOf n later, call.1.1 ≠ t) ∧
        ∀ t, .released t ∈ before → ∀ call ∈ callsOf n later, call.1.1 ≠ t) ∧
      ∀ n s p, .called n s p ∈ e.log → ∃ before later, e.log = before ++ .began n p :: later ∧ .called n s p ∈ later) ∧
    ∀ steps, Audience.Tells {} {} steps (Audience.play steps) := by
  refine ⟨fun e h => ⟨⟨⟨h.booked.listeners, congrArg List.length h.booked.listeners, ?_, h.distinct⟩, fun _ _ => h.remove_eq,
    fun _ => remove_of_not_mem⟩, fun hopen _ => take_of_closed hopen, ?_, fun _ _ _ => h.began_of_called⟩, fun steps => ?_⟩
  · exact fun t hdetached hreleased => (h.booked.released t hreleased).2 hdetached
  · intro before n p later hlog
    obtain ⟨-, hnone, hcalls⟩ := h.delivered.delivered before n p later hlog
    refine ⟨hnone, hcalls, fun hfinished => ?_, fun t l hl => h.not_called hlog (.inl ⟨l, hl⟩),
      fun t hr => h.not_called hlog (.inr hr)⟩
    rw [← hcalls, toCall_of_not_mem (h.delivered.finished n hfinished).2, List.append_nil]
  · exact Audience.tells_playFrom (a := {}) (e := {}) _ steps ⟨.new, rfl, rfl, .refl _, List.nodup_nil⟩ (Nat.le_refl _)

/-- Two listeners, of which the first, when it is called, makes a third subscription, ends its own, and fires the channel again. -/
def nestedFire : List (Occurrence String String) :=
  [.subscribed 0 "a", .subscribed 1 "b", .began 0 "outer", .called 0 (0, "a") "outer", .subscribed 2 "c", .released 0, .began 1 "inner",
    .called 1 (1, "b") "inner", .called 1 (2, "c") "inner", .finished 1, .called 0 (1, "b") "outer", .finished 0]

/-- These are the calls that are heard when such listeners subscribe and the channel is fired. -/
example :
    ((Audience.play [.subscribe "a" [.subscribe "c" [], .release "a", .fire "inner"], .subscribe "b" [], .fire "outer"]).map
        fun r => r.heard) = [[], [], heardOf nestedFire] := by
  decide +kernel

/-- The fire that was under way calls the second listener, though the first one has ended its subscription, and not the third. -/
theorem nestedFire_called :
    (nestedFire.foldl Emission.take {}).IsReached ∧
      callsOf 0 (nestedFire.drop 3) = [((0, "a"), "outer"), ((1, "b"), "outer")] ∧
      callsOf 1 (nestedFire.drop 7) = [((1, "b"), "inner"), ((2, "c"), "inner")] := by
  have hreached : (nestedFire.foldl Emission.take {}).IsReached := by
    refine Emission.IsReached.takeAll .new ⟨⟨rfl, rfl⟩, ⟨rfl, rfl⟩, ⟨rfl, rfl⟩, ⟨_, _, rfl⟩, ⟨rfl, rfl⟩, ?_, ⟨rfl, rfl⟩, ⟨_, _, rfl⟩,
      ⟨_, _, rfl⟩, ⟨_, _, rfl⟩, ⟨_, _, rfl⟩, ⟨_, _, rfl⟩, trivial⟩
    exact List.mem_cons_self
  obtain ⟨-, -, hfires, -⟩ := listeners_called_as_they_stood.1 _ hreached
  have houter := (hfires (nestedFire.take 2) 0 "outer" (nestedFire.drop 3) rfl).2.2.1 (by decide +kernel)
  have hinner := (hfires (nestedFire.take 6) 1 "inner" (nestedFire.drop 7) rfl).2.2.1 (by decide +kernel)
  exact ⟨hreached, houter.trans (by decide +kernel), hinner.trans (by decide +kernel)⟩

end Colloquy
