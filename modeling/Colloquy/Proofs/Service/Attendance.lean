import Colloquy.Proofs.Session.Callbacks
import Colloquy.Proofs.Session.Directory
import Colloquy.Service.Send

/-!
# The service and listeners that call back

A host calls the listeners of a session one after the other, and each of them may use the service before the next one is called. What
the operations of the service do to that session is then a sequence of moves, with all that their notices lead to
(`Host.IsAttended`), whatever else the operations do.
-/

namespace Colloquy

variable {π L W α β : Type}

/-- Where a session is looked at: its identifier, who listens to it, and where the host has its service and what was heard. -/
structure Gallery (W π L : Type) where
  id : Uuid
  crowd : Crowd π L
  service : W → Service π
  heard : W → List (L × Notice)

namespace Gallery

variable {g : Gallery W π L} {w : W} {may : Move π → Prop}

/-- A program goes from a state of the host, where the session is listed, as a task of the session goes. -/
def GoesFrom (g : Gallery W π L) (w : W) (task : Task π L) (x : StateM W α) : Prop :=
  ∀ s, (g.service w).directory.get? g.id = some s → ∃ t, (g.service (x.run w).2).directory.get? g.id = some t ∧
    g.crowd.Plays task ⟨s, g.heard w⟩ ⟨t, g.heard (x.run w).2⟩

/-- A program goes so from any state of the host. -/
def Goes (g : Gallery W π L) (task : Task π L) (x : StateM W α) : Prop :=
  ∀ w, g.GoesFrom w task x

theorem goesFrom_bind {x : StateM W α} {k : α → StateM W β} (hx : g.GoesFrom w (.moves may) x)
    (hk : ∀ a, g.Goes (.moves may) (k a)) : g.GoesFrom w (.moves may) (x >>= k) := by
  intro s hs
  obtain ⟨t, ht, hplays⟩ := hx s hs
  obtain ⟨u, hu, hplays'⟩ := hk (x.run w).1 (x.run w).2 t ht
  exact ⟨u, hu, hplays.trans hplays'⟩

theorem goes_bind {x : StateM W α} {k : α → StateM W β} (hx : g.Goes (.moves may) x)
    (hk : ∀ a, g.Goes (.moves may) (k a)) : g.Goes (.moves may) (x >>= k) :=
  fun w => goesFrom_bind (hx w) hk

theorem goes_pure (a : α) : g.Goes (.moves may) (pure a) :=
  fun _ s hs => ⟨s, hs, .rest may _⟩

end Gallery

/-- The host calls the listeners of a session as its notices ask for. Whatever else it does makes moves of the session that are
among some moves, if it makes any. -/
structure Host.IsAttended (host : Host π (StateM W)) (g : Gallery W π L) (may : Move π → Prop) : Prop where
  state : ∀ w, host.state.run w = (g.service w, w)
  setState : ∀ s w, g.service ((host.setState s).run w).2 = s
  heard : ∀ s w, g.heard ((host.setState s).run w).2 = g.heard w
  announce : ∀ n, g.Goes (.calls n (g.crowd.listeners n)) (host.announce (.session (.listed g.id) n))
  elsewhere : ∀ a, (∀ n, a ≠ .session (.listed g.id) n) → g.Goes (.moves may) (host.announce a)
  newId : g.Goes (.moves may) host.newId
  newStamp : g.Goes (.moves may) host.newStamp
  context : g.Goes (.moves may) host.context
  /-- Moves that change nothing of the conversation are among those moves. -/
  edits : ∀ m, m.edits = true → may m

/-- Putting a session elsewhere changes nothing of what is found in a place. -/
theorem Directory.get?_put_of_ne {d : Directory} {key : SessionKey} {id : Uuid} (hkey : key ≠ .listed id) {s : Session}
    (hs : ∀ j, key = .listed j → d.get? j = none ∨ s.id = j) : (d.put key s).get? id = d.get? id := by
  cases key with
  | null => rfl
  | listed j =>
    have hne : j ≠ id := fun h => hkey (h ▸ rfl)
    rcases hs j rfl with hnone | hid
    · rw [put_of_none (show d.session? (.listed j) = none from hnone)]
    · rw [get?_put hid, if_neg hne]

/-- A move of a session is put back in its place. -/
theorem Directory.get?_put_take_of_ne {d : Directory} {key : SessionKey} {id : Uuid} (hkey : key ≠ .listed id) {s : Session}
    (hs : d.session? key = some s) (m : Move π) : (d.put key (s.take m).session).get? id = d.get? id := by
  refine get?_put_of_ne hkey fun j hj => .inr ?_
  subst hj
  exact (s.takes m).same.1.trans (id_of_get? hs)

namespace Service

open Gallery

section Operations

variable {host : Host π (StateM W)} {g : Gallery W π L} {may : Move π → Prop} (h : host.IsAttended g may) {w : W}

include h

theorem goes_state_bind {k : Service π → StateM W α} (hk : ∀ w, g.GoesFrom w (.moves may) (k (g.service w))) :
    g.Goes (.moves may) (host.state >>= k) := by
  intro w
  rw [GoesFrom, StateT.run_bind, h.state]
  exact hk w

/-- Where the session stays as it is, nothing happens to it. -/
theorem goesFrom_setState {s : Service π} (hs : s.directory.get? g.id = (g.service w).directory.get? g.id) :
    g.GoesFrom w (.moves may) (host.setState s) := by
  intro x hx
  refine ⟨x, by rw [h.setState, hs, hx], ?_⟩
  rw [h.heard]
  exact .rest may _

theorem goesFrom_setDirectory {d : Directory} (hd : d.get? g.id = (g.service w).directory.get? g.id) :
    g.GoesFrom w (.moves may) (setDirectory host d) := by
  rw [setDirectory, GoesFrom, StateT.run_bind, h.state]
  exact goesFrom_setState h hd

theorem goes_setRoster (r : Roster π) : g.Goes (.moves may) (setRoster host r) :=
  goes_state_bind h fun _ => goesFrom_setState h rfl

/-- Notices of another session. -/
theorem goes_deliver_elsewhere {key : SessionKey} (hkey : key ≠ .listed g.id) (notices : List Notice) :
    g.Goes (.moves may) (deliver host key notices) := by
  induction notices with
  | nil => exact goes_pure ()
  | cons n rest ih =>
    refine goes_bind (h.elsewhere _ fun n' he => ?_) fun _ => ih
    cases he
    exact hkey rfl

/-- Notices of the session. -/
theorem goes_deliver (notices : List Notice) : g.Goes (.notices notices) (deliver host (.listed g.id) notices) := by
  induction notices with
  | nil => exact fun _ s hs => ⟨s, hs, .delivered _⟩
  | cons n rest ih =>
    intro w s hs
    obtain ⟨t, ht, hcalls⟩ := h.announce n w s hs
    obtain ⟨u, hu, hrest⟩ := ih _ t ht
    exact ⟨u, hu, .deliver hcalls hrest⟩

/-- The session takes a move, and its notices are delivered. -/
theorem goesFrom_take {s : Session} (hs : (g.service w).directory.get? g.id = some s) {m : Move π} (hm : may m) :
    g.GoesFrom w (.moves may) (do
      setDirectory host ((g.service w).directory.put (.listed g.id) (s.take m).session)
      deliver host (.listed g.id) (s.take m).notices) := by
  intro x hx
  obtain rfl := Option.some.inj (hs.symm.trans hx)
  have hid : (s.take m).session.id = g.id := (s.takes m).same.1.trans (Directory.id_of_get? hs)
  have hset : g.service ((setDirectory host ((g.service w).directory.put (.listed g.id) (s.take m).session)).run w).2 =
      { g.service w with directory := (g.service w).directory.put (.listed g.id) (s.take m).session } := by
    rw [setDirectory, StateT.run_bind, h.state]
    exact h.setState _ w
  have hheard : g.heard ((setDirectory host ((g.service w).directory.put (.listed g.id) (s.take m).session)).run w).2 =
      g.heard w := by
    rw [setDirectory, StateT.run_bind, h.state]
    exact h.heard _ w
  have hget : ((g.service w).directory.put (.listed g.id) (s.take m).session).get? g.id = some (s.take m).session := by
    rw [Directory.get?_put hid, if_pos rfl, hs, Option.map_some]
  obtain ⟨t, ht, hplays⟩ := goes_deliver h (s.take m).notices _ _ (by rw [hset]; exact hget)
  rw [hheard] at hplays
  exact ⟨t, ht, .move hm hplays (.rest may _)⟩

/-- An operation that is a move of the session of a key. -/
theorem goes_operate (key : SessionKey) (m : Move π) (hm : key = .listed g.id → may m) :
    g.Goes (.moves may) (operate host key fun s => ((s.take m).session, (s.take m).notices)) := by
  refine goes_state_bind h fun w => ?_
  dsimp only
  by_cases hkey : key = .listed g.id
  · subst hkey
    intro s hs
    rw [Directory.session?_listed, hs]
    exact goesFrom_take h hs (hm rfl) s hs
  · cases hs : (g.service w).directory.session? key with
    | none => exact goes_pure () w
    | some s =>
      refine goesFrom_bind (goesFrom_setDirectory h ?_) fun _ => goes_deliver_elsewhere h hkey _
      exact Directory.get?_put_take_of_ne hkey hs m

theorem goes_startResponse (key : SessionKey) (provider : Option π) (context : Option Json)
    (hm : key = .listed g.id → ∀ user assistant, may (.start provider context user assistant)) :
    g.Goes (.moves may) (startResponse host key provider context) := by
  refine goes_bind h.newStamp fun user => goes_bind h.newStamp fun assistant => goes_state_bind h fun w => ?_
  dsimp only
  cases hstart : ((g.service w).directory.session key).start provider context user assistant with
  | error e => exact goes_pure _ w
  | ok started =>
    have htake : ((g.service w).directory.session key).take (.start provider context user assistant) =
        ⟨started.session, some started.pending, started.notices⟩ := by simp only [Session.take, hstart]
    by_cases hkey : key = .listed g.id
    · subst hkey
      intro s hs
      rw [Directory.session_of_get? hs] at htake
      have hgoes := goesFrom_take h hs (hm rfl user assistant)
      rw [htake] at hgoes
      have hafter := goesFrom_bind hgoes fun _ => goes_pure (Except.ok (ε := Error) started.pending)
      rw [bind_assoc] at hafter
      exact hafter s hs
    · refine goesFrom_bind (goesFrom_setDirectory h ?_) fun _ =>
        goes_bind (goes_deliver_elsewhere h hkey _) fun _ => goes_pure _
      have hid := (Session.takes ((g.service w).directory.session key)
        (.start provider context user assistant)).same.1
      rw [htake] at hid
      refine Directory.get?_put_of_ne hkey fun j hj => ?_
      subst hj
      cases hs : (g.service w).directory.get? j with
      | none => exact .inl rfl
      | some s => exact .inr (hid.trans (by rw [Directory.session_of_get? hs, Directory.id_of_get? hs]))

theorem goes_cancelSession (key : SessionKey) (hm : key = .listed g.id → may .cancel) :
    g.Goes (.moves may) (cancelSession host key) :=
  goes_operate h key .cancel hm

theorem goes_takeDelta (p : Pending π) (text : String) (hm : p.session = g.id → may (.delta p.generation text)) :
    g.Goes (.moves may) (takeDelta host p text) :=
  goes_operate h _ (.delta p.generation text) fun hkey => hm (SessionKey.listed.inj hkey)

theorem goes_finish (p : Pending π) (e : Error) (hm : p.session = g.id → may (.finish p.generation (.error e))) :
    g.Goes (.moves may) (settle host p (some e)) :=
  goes_operate h _ (.finish p.generation (.error e)) fun hkey => hm (SessionKey.listed.inj hkey)

theorem goes_drop (p : Pending π) (hm : p.session = g.id → may (.drop p.generation)) :
    g.Goes (.moves may) (settle host p none) :=
  goes_operate h _ (.drop p.generation) fun hkey => hm (SessionKey.listed.inj hkey)

theorem goes_cancel (hm : may .cancel) : g.Goes (.moves may) (cancel host) :=
  goes_state_bind h fun w => goes_cancelSession h _ (fun _ => hm) w

/-! ## Sending -/

/-- A change of a session that changes nothing of its conversation. -/
theorem goesFrom_change (key : SessionKey) {m : Move π} (hm : m.edits = true) :
    g.GoesFrom w (.moves may) (setDirectory host ((g.service w).directory.change key fun s => (s.take m).session)) := by
  by_cases hkey : key = .listed g.id
  · subst hkey
    intro s hs
    have hgoes := goesFrom_take h hs (h.edits m hm)
    have hsession : (g.service w).directory.session? (.listed g.id) = some s := hs
    rw [(s.take_of_edits hm).1, deliver, bind_pure] at hgoes
    rw [Directory.change_of_some hsession]
    exact hgoes s hs
  · refine goesFrom_setDirectory h ?_
    cases hs : (g.service w).directory.session? key with
    | none => rw [Directory.change_of_none hs]
    | some s => rw [Directory.change_of_some hs, Directory.get?_put_take_of_ne hkey hs]

theorem goes_setPrompt (text : String) : g.Goes (.moves may) (setPrompt host text) :=
  goes_state_bind h fun _ => goesFrom_change h _ (m := .setPrompt text) rfl

theorem goes_takePrompt (key : SessionKey) : g.Goes (.moves may) (takePrompt host key) :=
  goes_state_bind h fun _ => goesFrom_bind (goesFrom_change h key (m := .takePrompt) rfl) fun _ => goes_pure _

theorem goes_selectedProvider : g.Goes (.moves may) (selectedProvider host) :=
  goes_state_bind h fun w => goesFrom_bind (goes_setRoster h _ w) fun _ => goes_pure _

theorem goes_newSession : g.Goes (.moves may) (newSession host) := by
  refine goes_bind h.newId fun id => goes_state_bind h fun w => ?_
  intro s hs
  refine goesFrom_bind (goesFrom_setDirectory h ?_) (fun _ => goes_bind (h.elsewhere (.sessionCreated id) nofun) fun _ => goes_pure _)
    s hs
  rw [Directory.get?_add, hs]
  rfl

theorem goes_selectSession (target : Option Uuid) : g.Goes (.moves may) (selectSession host target) := by
  refine goes_state_bind h fun w => ?_
  split
  · exact goes_pure _ w
  next d hd =>
    refine goesFrom_bind (goesFrom_setDirectory h ?_) fun _ => goes_bind (h.elsewhere _ nofun) fun _ => goes_pure _
    rw [Directory.select_eq hd]
    rfl

theorem goes_ensureSession : g.Goes (.moves may) (ensureSession host) := by
  refine goes_state_bind h fun w => ?_
  split
  · exact goes_pure _ w
  · refine goesFrom_bind (goes_newSession h w) fun id => goes_bind (goes_takePrompt h .null) fun draft => ?_
    exact goes_state_bind h fun w =>
      goesFrom_bind (goesFrom_change h (.listed id) (m := .setPrompt draft) rfl) fun _ => goes_selectSession h _

theorem goes_send (hm : ∀ provider context user assistant, may (.start (some provider) context user assistant)) :
    g.Goes (.moves may) (send host) := by
  refine goes_bind (goes_selectedProvider h) fun provider => ?_
  split
  · exact goes_pure _
  next provider =>
    refine goes_bind (goes_ensureSession h) fun r => ?_
    split
    · exact goes_pure _
    · exact goes_bind h.context fun context => goes_startResponse h _ _ context fun _ => hm provider context

end Operations

end Service

end Colloquy
