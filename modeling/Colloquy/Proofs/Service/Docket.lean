import Mathlib.Algebra.Order.Group.Multiset
import Mathlib.Data.Multiset.ZeroCons
import Mathlib.Logic.Relation
import Colloquy.Proofs.Session.Directory
import Colloquy.Proofs.Session.Null
import Colloquy.Proofs.Session.Requests
import Colloquy.Service.Basic

/-!
# What is done to a service

All that is ever done to a service, whoever does it and from wherever, is done in changes of four kinds (`Docket.Changes`):
the roster is replaced, a session takes a move, a new session is added, or another one is selected. A change is made in one
piece; what is announced of it is announced afterwards, and a listener that uses the service in return makes changes of its
own, between this change and the next.

Next to the service, a docket has what became of the responses that the service handed out. Only a response that is still
outstanding can be answered to its end or dropped, and it can be so once; what speaks, or is told to stop, may be any.
-/

namespace Colloquy

variable {π : Type}

/-- The generation that a move cancels, with the session. -/
def Session.cancelledBy (s : Session) : Move π → Option (Uuid × Nat)
  | .cancel => if s.isActive then some (s.id, s.generation) else none
  | _ => none

/-- A move of the session of a key spends the response that it settles, if it settles one. -/
def Move.Spends (m : Move π) (key : SessionKey) (spent : Multiset (Pending π)) : Prop :=
  match m.settlement? with
  | none => spent = 0
  | some (g, _) => ∃ p : Pending π, spent = {p} ∧ key = .listed p.session ∧ p.generation = g

/-- The response that a move starts in the session of a key. -/
def Directory.startedBy (d : Directory) (key : SessionKey) (m : Move π) : Option (Pending π) :=
  (d.session? key).bind fun s => (s.take m).started

theorem Directory.startedBy_of_not_start (d : Directory) (key : SessionKey) {m : Move π} (hm : m.isStart = false) :
    d.startedBy key m = none := by
  have hnone (s : Session) : (s.take m).started = none := by
    cases m with
    | start provider context user assistant => cases hm
    | _ => rfl
  rw [startedBy]
  cases d.session? key with
  | none => rfl
  | some s => exact hnone s

/-- The directory after a move of the session of a key. -/
def Directory.moved (d : Directory) (key : SessionKey) (m : Move π) : Directory :=
  d.change key fun s => (s.take m).session

/-- A service, and what became of the responses that it handed out. -/
structure Docket (π : Type) where
  service : Service π := {}
  /-- The responses that were ever handed out. -/
  issued : List (Pending π) := []
  /-- Those of them that were neither answered to their end nor dropped. One that is being answered is among them. -/
  outstanding : Multiset (Pending π) := 0
  /-- The generations that were ended by a cancel, each with its session. -/
  cancelled : List (Uuid × Nat) := []

namespace Docket

/-- The docket after a move of the session of a key; `rest` are the responses that are outstanding but for one it starts. -/
def moved (d : Docket π) (key : SessionKey) (m : Move π) (rest : Multiset (Pending π)) : Docket π where
  service := { d.service with directory := d.service.directory.moved key m }
  issued := d.issued ++ (d.service.directory.startedBy key m).toList
  outstanding := (d.service.directory.startedBy key m).toList + rest
  cancelled := d.cancelled ++ ((d.service.directory.session? key).bind fun s => s.cancelledBy m).toList

/-- A change of a service. -/
inductive Changes (d : Docket π) : Docket π → Prop where
  | replaces (roster : Roster π) : Changes d { d with service := { d.service with roster } }
  | moves (key : SessionKey) (m : Move π) (spent rest : Multiset (Pending π)) :
    d.outstanding = spent + rest → m.Spends key spent → Changes d (d.moved key m rest)
  | adds (id : Uuid) :
    Changes d { d with service := { d.service with directory := d.service.directory.add id } }
  | selects (target : Option Uuid) (directory : Directory) :
    d.service.directory.select target = .ok directory → Changes d { d with service := { d.service with directory } }

/-- A sequence of changes leads from one docket to another. -/
def Leads (d e : Docket π) : Prop :=
  Relation.ReflTransGen Changes d e

/-- Changes have led to a docket, from a new service. -/
def IsReached (d : Docket π) : Prop :=
  Leads {} d

theorem Leads.refl (d : Docket π) : d.Leads d :=
  Relation.ReflTransGen.refl

theorem Leads.trans {d e f : Docket π} (hde : d.Leads e) (hef : e.Leads f) : d.Leads f :=
  Relation.ReflTransGen.trans hde hef

theorem Changes.leads {d e : Docket π} (h : d.Changes e) : d.Leads e :=
  Relation.ReflTransGen.single h

/-- What every change keeps is kept by any sequence of changes. -/
theorem Leads.keeps {P : Docket π → Prop} (hP : ∀ d e, d.Changes e → P d → P e) {d e : Docket π} (h : d.Leads e)
    (hd : P d) : P e := by
  induction h with
  | refl => exact hd
  | tail _ hlast ih => exact hP _ _ hlast ih

theorem IsReached.moved {d : Docket π} (h : d.IsReached) (key : SessionKey) (m : Move π)
    {spent rest : Multiset (Pending π)} (ho : d.outstanding = spent + rest) (hs : m.Spends key spent) :
    (d.moved key m rest).IsReached :=
  h.trans (Changes.moves key m spent rest ho hs).leads

/-- A move that starts nothing takes the responses that it spends off the docket. -/
theorem leads_moved {d : Docket π} (key : SessionKey) (m : Move π) (hm : m.isStart = false) {spent rest : Multiset (Pending π)}
    (ho : d.outstanding = spent + rest) (hs : m.Spends key spent) :
    ∃ e : Docket π, d.Leads e ∧ e.service = { d.service with directory := d.service.directory.moved key m } ∧
      e.outstanding = 0 + rest := by
  refine ⟨d.moved key m rest, (Changes.moves key m spent rest ho hs).leads, rfl, ?_⟩
  rw [moved, Directory.startedBy_of_not_start _ key hm]
  rfl

/-! ## The sessions of a docket -/

/-- What the null session and the listed ones are: the null session answers nothing, and each listed one has been played, by
moves that handed out just the responses that were issued for it. -/
structure IsRecord (d : Docket π) : Prop where
  null : d.service.directory.null.isNull = true ∧ d.service.directory.null.isActive = false
  listed : ∀ p ∈ d.issued, (d.service.directory.get? p.session).isSome = true
  played : ∀ id s, d.service.directory.get? id = some s → ∃ moves : List (Move π),
    s = (Session.new id).run moves ∧ d.issued.filter (fun p => p.session = id) = (Session.new id).handedOut moves

variable {d e : Docket π}

/-- The null session stays what it is, whatever move it takes, and hands out nothing. -/
theorem IsRecord.null_take (h : d.IsRecord) (m : Move π) :
    ((d.service.directory.null.take m).session.isNull = true ∧ (d.service.directory.null.take m).session.isActive = false) ∧
      (d.service.directory.null.take m).started = none := by
  obtain ⟨hnull, hidle⟩ := h.null
  have ht := d.service.directory.null.takes m
  generalize d.service.directory.null.take m = turn at ht
  cases ht with
  | begins provider context user assistant hn _ => rw [hnull] at hn; cases hn
  | speaks text ha => rw [hidle] at ha; cases ha
  | settled m error _ ha => rw [hidle] at ha; cases ha
  | cancelled ha => rw [hidle] at ha; cases ha
  | rests m t _ _ hn _ ha _ => exact ⟨⟨hn.trans hnull, ha.trans hidle⟩, rfl⟩

/-- The null session is never active, so that a session that is active is a listed one. -/
theorem IsRecord.listed_of_isActive (h : d.IsRecord) {key : SessionKey} {s : Session}
    (hs : d.service.directory.session? key = some s) (ha : s.isActive = true) : key = .listed s.id := by
  cases key with
  | null =>
    obtain rfl := Option.some.inj hs
    rw [h.null.2] at ha
    cases ha
  | listed id => rw [Directory.id_of_get? hs]

/-- No listed session is the null session. -/
theorem IsRecord.isNull (h : d.IsRecord) {id : Uuid} {s : Session} (hs : d.service.directory.get? id = some s) :
    s.isNull = false := by
  obtain ⟨moves, rfl, -⟩ := h.played id s hs
  exact Session.isNull_run id moves

theorem get?_moved (d : Directory) (key : SessionKey) (m : Move π) (id : Uuid) :
    (d.moved key m).get? id = if key = .listed id then (d.get? id).map fun s => (s.take m).session else d.get? id :=
  d.get?_change (fun s => (s.takes m).same.1) key id

/-- What a move starts is of the session that takes it, which is a listed one. -/
theorem IsRecord.of_startedBy (h : d.IsRecord) {key : SessionKey} {m : Move π} {p : Pending π}
    (hp : d.service.directory.startedBy key m = some p) :
    key = .listed p.session ∧ ∃ s, d.service.directory.get? p.session = some s ∧ (s.take m).started = some p := by
  obtain ⟨s, hs, hstarted⟩ := Option.bind_eq_some_iff.mp hp
  cases key with
  | null =>
    obtain rfl := Option.some.inj hs
    rw [(h.null_take m).2] at hstarted
    cases hstarted
  | listed id =>
    obtain rfl : s.id = id := Directory.id_of_get? hs
    obtain ⟨hid, -⟩ := (s.takes m).generation_eq.2 p hstarted
    exact ⟨by rw [hid], s, hid ▸ hs, hstarted⟩

theorem IsRecord.moved (h : d.IsRecord) (key : SessionKey) (m : Move π) (rest : Multiset (Pending π)) :
    (d.moved key m rest).IsRecord := by
  refine ⟨?_, ?_, ?_⟩
  · cases key with
    | null => exact (h.null_take m).1
    | listed id =>
      rw [Docket.moved, Directory.moved, Directory.null_change]
      exact h.null
  · intro p hp
    have hsome : (d.service.directory.get? p.session).isSome = true := by
      rcases List.mem_append.mp hp with hp | hp
      · exact h.listed p hp
      · obtain ⟨-, s, hs, -⟩ := h.of_startedBy (Option.mem_toList.mp hp)
        rw [hs]
        rfl
    rw [Docket.moved, get?_moved]
    split
    · rw [Option.isSome_map, hsome]
    · exact hsome
  · intro id t ht
    rw [Docket.moved, get?_moved] at ht
    rw [Docket.moved, List.filter_append]
    split at ht
    next hkey =>
      subst hkey
      obtain ⟨s, hs, rfl⟩ := Option.map_eq_some_iff.mp ht
      obtain ⟨moves, rfl, hissued⟩ := h.played id s hs
      refine ⟨moves ++ [m], (Session.run_concat _ _ _).symm, ?_⟩
      have hstarted : d.service.directory.startedBy (.listed id) m = (((Session.new id).run moves).take m).started := by
        rw [Directory.startedBy, Directory.session?_listed, hs]
        rfl
      rw [hissued, Session.handedOut_concat, ← hstarted, List.filter_eq_self.mpr]
      intro p hp
      obtain ⟨hkey, -⟩ := h.of_startedBy (Option.mem_toList.mp hp)
      simpa using (SessionKey.listed.inj hkey).symm
    next hkey =>
      obtain ⟨moves, hmoves, hissued⟩ := h.played id t ht
      refine ⟨moves, hmoves, ?_⟩
      rw [hissued, List.filter_eq_nil_iff.mpr, List.append_nil]
      intro p hp hid
      obtain ⟨hkey', -⟩ := h.of_startedBy (Option.mem_toList.mp hp)
      exact hkey (by rw [hkey', of_decide_eq_true hid])

/-- Every change keeps the record of the sessions. -/
theorem Changes.isRecord (hc : d.Changes e) (h : d.IsRecord) : e.IsRecord := by
  cases hc with
  | replaces roster => exact ⟨h.null, h.listed, h.played⟩
  | moves key m spent rest _ _ => exact h.moved key m rest
  | adds id =>
    refine ⟨h.null, ?_, ?_⟩
    · intro p hp
      rw [Directory.get?_add, Option.isSome_or, h.listed p hp]
      rfl
    · intro j s hs
      rw [Directory.get?_add] at hs
      cases hj : d.service.directory.get? j with
      | some x =>
        rw [hj] at hs
        exact h.played j s (hj.trans hs)
      | none =>
        have hnone : d.issued.filter (fun p => p.session = j) = [] := by
          refine List.filter_eq_nil_iff.mpr fun p hp hpj => ?_
          have hsome := h.listed p hp
          rw [of_decide_eq_true hpj, hj] at hsome
          cases hsome
        rw [hj, Option.none_or] at hs
        split at hs
        next hid =>
          subst hid
          cases hs
          exact ⟨[], rfl, hnone⟩
        next => cases hs
  | selects target directory hd =>
    obtain rfl := Directory.select_eq hd
    exact ⟨h.null, h.listed, h.played⟩

theorem IsReached.isRecord (h : d.IsReached) : d.IsRecord :=
  h.keeps (fun _ _ => Changes.isRecord) ⟨⟨rfl, rfl⟩, fun _ hp => absurd hp List.not_mem_nil, fun _ _ hs => nomatch hs⟩

/-! ## The null session -/

theorem isVacant_moved {d : Directory} (h : d.null.IsVacant) (key : SessionKey) (m : Move π) : (d.moved key m).null.IsVacant := by
  cases key with
  | null => exact (h.take m).1
  | listed id =>
    rw [Directory.moved, Directory.null_change]
    exact h

theorem Changes.isVacant (hc : d.Changes e) (h : d.service.directory.null.IsVacant) : e.service.directory.null.IsVacant := by
  cases hc with
  | replaces roster => exact h
  | moves key m spent rest _ _ => exact isVacant_moved h key m
  | adds id => exact h
  | selects target directory hd =>
    obtain rfl := Directory.select_eq hd
    exact h

theorem IsReached.isVacant (h : d.IsReached) : d.service.directory.null.IsVacant :=
  h.keeps (fun _ _ => Changes.isVacant) rfl

end Docket

end Colloquy
