import Colloquy.Proofs.Service.Attendance

/-!
# Assemblies of listeners

Listeners of a session, of which each may use the service whenever it is called, in whatever way (`Conduct`), as often as it likes but
not without end: within so many calls inside one another nobody calls back any more (`Assembly.host`).
-/

namespace Colloquy

variable {π L : Type}

/-- What somebody does with a service, step by step, in view of what has come of it and of what is there. -/
inductive Conduct (π : Type) where
  | done
  /-- Reads the state of the service. -/
  | look (next : Service π → Conduct π)
  | setPrompt (text : String) (next : Conduct π)
  | start (key : SessionKey) (provider : Option π) (context : Option Json) (next : Except Error (Pending π) → Conduct π)
  | send (next : Except Error (Pending π) → Conduct π)
  /-- Cancels in the current session. -/
  | cancel (next : Conduct π)
  | cancelSession (key : SessionKey) (next : Conduct π)
  /-- Lets a response say something. -/
  | takeDelta (p : Pending π) (text : String) (next : Conduct π)
  /-- Ends a response, or drops it. -/
  | settle (p : Pending π) (error : Option Error) (next : Conduct π)

/-- The move that ends a response. -/
def Pending.ending (p : Pending π) : Option Error → Move π
  | none => .drop p.generation
  | some e => .finish p.generation (.error e)

namespace Conduct

/-- Does it all. -/
def run {m : Type → Type} [Monad m] (host : Host π m) : Conduct π → m Unit
  | .done => pure ()
  | .look next => do
    let s ← host.state
    (next s).run host
  | .setPrompt text next => do
    Service.setPrompt host text
    next.run host
  | .start key provider context next => do
    let r ← Service.startResponse host key provider context
    (next r).run host
  | .send next => do
    let r ← Service.send host
    (next r).run host
  | .cancel next => do
    Service.cancel host
    next.run host
  | .cancelSession key next => do
    Service.cancelSession host key
    next.run host
  | .takeDelta p text next => do
    Service.takeDelta host p text
    next.run host
  | .settle p error next => do
    Service.settle host p error
    next.run host

/-- Whatever comes of it, the moves of a session that are made are among some moves, besides those that change nothing of the
conversation. -/
def Within (id : Uuid) (may : Move π → Prop) : Conduct π → Prop
  | .done => True
  | .look next => ∀ s, (next s).Within id may
  | .setPrompt _ next => next.Within id may
  | .start key provider context next =>
    (key = .listed id → ∀ user assistant, may (.start provider context user assistant)) ∧ ∀ r, (next r).Within id may
  | .send next =>
    (∀ provider context user assistant, may (.start (some provider) context user assistant)) ∧ ∀ r, (next r).Within id may
  | .cancel next => may .cancel ∧ next.Within id may
  | .cancelSession key next => (key = .listed id → may .cancel) ∧ next.Within id may
  | .takeDelta p text next => (p.session = id → may (.delta p.generation text)) ∧ next.Within id may
  | .settle p error next => (p.session = id → may (p.ending error)) ∧ next.Within id may

variable {id : Uuid} {may may' : Move π → Prop}

theorem Within.mono {c : Conduct π} (h : c.Within id may) (hm : ∀ m, may m → may' m) : c.Within id may' := by
  induction c with
  | done => trivial
  | look next ih => exact fun s => ih s (h s)
  | setPrompt text next ih => exact ih h
  | start key provider context next ih => exact ⟨fun hk user assistant => hm _ (h.1 hk user assistant), fun r => ih r (h.2 r)⟩
  | send next ih => exact ⟨fun provider context user assistant => hm _ (h.1 provider context user assistant), fun r => ih r (h.2 r)⟩
  | cancel next ih => exact ⟨hm _ h.1, ih h.2⟩
  | cancelSession key next ih => exact ⟨fun hk => hm _ (h.1 hk), ih h.2⟩
  | takeDelta p text next ih => exact ⟨fun hp => hm _ (h.1 hp), ih h.2⟩
  | settle p error next ih => exact ⟨fun hp => hm _ (h.1 hp), ih h.2⟩

theorem within_of_forall (hm : ∀ m, may m) (c : Conduct π) : c.Within id may := by
  induction c with
  | done => trivial
  | look next ih => exact ih
  | setPrompt text next ih => exact ih
  | start key provider context next ih => exact ⟨fun _ _ _ => hm _, ih⟩
  | send next ih => exact ⟨fun _ _ _ _ => hm _, ih⟩
  | cancel next ih => exact ⟨hm _, ih⟩
  | cancelSession key next ih => exact ⟨fun _ => hm _, ih⟩
  | takeDelta p text next ih => exact ⟨fun _ => hm _, ih⟩
  | settle p error next ih => exact ⟨fun _ => hm _, ih⟩

open Service Gallery in
/-- What is done within some moves goes as such moves of the session go. -/
theorem goes_run {W : Type} {host : Host π (StateM W)} {g : Gallery W π L} (h : host.IsAttended g may) {c : Conduct π}
    (hc : c.Within g.id may) : g.Goes (.moves may) (c.run host) := by
  induction c with
  | done => exact goes_pure ()
  | look next ih => exact goes_state_bind h fun w => ih _ (hc _) w
  | setPrompt text next ih => exact goes_bind (goes_setPrompt h text) fun _ => ih hc
  | start key provider context next ih =>
    exact goes_bind (goes_startResponse h key provider context hc.1) fun r => ih r (hc.2 r)
  | send next ih => exact goes_bind (goes_send h hc.1) fun r => ih r (hc.2 r)
  | cancel next ih => exact goes_bind (goes_cancel h hc.1) fun _ => ih hc.2
  | cancelSession key next ih => exact goes_bind (goes_cancelSession h key hc.1) fun _ => ih hc.2
  | takeDelta p text next ih => exact goes_bind (goes_takeDelta h p text hc.1) fun _ => ih hc.2
  | settle p error next ih =>
    refine goes_bind ?_ fun _ => ih hc.2
    cases error with
    | none => exact goes_drop h p hc.1
    | some e => exact goes_finish h p e hc.1

end Conduct

/-- Listeners of a session on either channel, in the order in which they subscribed, and what each of them does when it is called with
a notice, in view of all that was heard. -/
structure Assembly (π L : Type) where
  activity : List L
  response : List L
  reacts : L → Notice → List (L × Notice) → Conduct π
  /-- The context to send along. -/
  context : Option Json := none

/-- What a host of such listeners holds: the service, what was heard so far by whom, and how many numbers were drawn. -/
structure Scene (π L : Type) where
  service : Service π := {}
  heard : List (L × Notice) := []
  drawn : Nat := 0

namespace Assembly

variable (a : Assembly π L)

/-- Who is called with a notice. -/
def listeners : Notice → List L
  | .active _ => a.activity
  | .response _ => a.response

/-- Calls listeners with a notice; `act` is how they do what they do then. -/
def call (act : Conduct π → StateM (Scene π L) Unit) (n : Notice) : List L → StateM (Scene π L) Unit
  | [] => pure ()
  | l :: rest => do
    modify fun w => { w with heard := w.heard ++ [(l, n)] }
    act (a.reacts l n (← get).heard)
    call act n rest

/-- The host of the listeners of a session; `act` is how they do what they do. -/
def hostWith (id : Uuid) (act : Conduct π → StateM (Scene π L) Unit) : Host π (StateM (Scene π L)) where
  state := do return (← get).service
  setState s := modify fun w => { w with service := s }
  announce
    | .session (.listed j) n => if j = id then a.call act n (a.listeners n) else pure ()
    | _ => pure ()
  newId := modifyGet fun w => (.ofNat w.drawn, { w with drawn := w.drawn + 1 })
  newStamp := modifyGet fun w => (⟨.ofNat w.drawn, default⟩, { w with drawn := w.drawn + 1 })
  context := pure a.context

/-- The host of the listeners of a session, with at most `depth` calls inside one another in which listeners do something. -/
def host (id : Uuid) : (depth : Nat) → Host π (StateM (Scene π L))
  | 0 => a.hostWith id fun _ => pure ()
  | depth + 1 => a.hostWith id (Conduct.run (host id depth))

/-- A listener that changes nothing of the conversation when it is called. -/
def LeavesAlone (id : Uuid) (l : L) : Prop :=
  ∀ n heard, (a.reacts l n heard).Within id fun m => m.edits = true

/-- A listener that changes no message when it is called, and starts no generation: that cancels at most, or drops. -/
def KeepsMessages (id : Uuid) (l : L) : Prop :=
  ∀ n heard, (a.reacts l n heard).Within id fun m => m.keepsLast = true

/-- The session of an identifier, as its listeners have it, where each of them makes moves that it may make. -/
def gallery (id : Uuid) (may : L → Move π → Prop) : Gallery (Scene π L) π L :=
  ⟨id, ⟨a.activity, a.response, may⟩, Scene.service, Scene.heard⟩

variable {a} {id : Uuid} {may : L → Move π → Prop}

open Gallery

/-- Listeners are called one after the other, if they do what they may do. -/
theorem goes_call {act : Conduct π → StateM (Scene π L) Unit}
    (hact : ∀ l n heard, (a.gallery id may).Goes (.moves (may l)) (act (a.reacts l n heard))) (n : Notice) (ls : List L) :
    (a.gallery id may).Goes (.calls n ls) (a.call act n ls) := by
  induction ls with
  | nil => exact fun _ s hs => ⟨s, hs, .called n _⟩
  | cons l rest ih =>
    intro w s hs
    obtain ⟨t, ht, hmoves⟩ := hact l n (w.heard ++ [(l, n)]) { w with heard := w.heard ++ [(l, n)] } s hs
    obtain ⟨u, hu, hrest⟩ := ih _ t ht
    exact ⟨u, hu, .call hmoves hrest⟩

theorem hostWith_isAttended {act : Conduct π → StateM (Scene π L) Unit}
    (hact : ∀ l n heard, (a.gallery id may).Goes (.moves (may l)) (act (a.reacts l n heard))) {all : Move π → Prop}
    (hall : ∀ m, m.edits = true → all m) : (a.hostWith id act).IsAttended (a.gallery id may) all where
  state _ := rfl
  setState _ _ := rfl
  heard _ _ := rfl
  announce n := by
    have hannounce : (a.hostWith id act).announce (.session (.listed id) n) = a.call act n (a.listeners n) := if_pos rfl
    have hlisteners : (a.gallery id may).crowd.listeners n = a.listeners n := by cases n <;> rfl
    rw [hlisteners]
    exact hannounce ▸ goes_call hact n (a.listeners n)
  elsewhere b hb := by
    have hannounce : (a.hostWith id act).announce b = pure () := by
      cases b with
      | session key n =>
        cases key with
        | null => rfl
        | listed j =>
          have hne : j ≠ id := fun h => hb n (h ▸ rfl)
          exact if_neg hne
      | _ => rfl
    rw [hannounce]
    exact goes_pure ()
  newId _ s hs := ⟨s, hs, .rest all _⟩
  newStamp _ s hs := ⟨s, hs, .rest all _⟩
  context := goes_pure _
  edits := hall

/-- The listeners are called as the notices ask for, at whatever depth. -/
theorem host_isAttended (hreacts : ∀ l n heard, (a.reacts l n heard).Within id (may l))
    (hmay : ∀ l m, m.edits = true → may l m) (depth : Nat) {all : Move π → Prop} (hall : ∀ m, m.edits = true → all m) :
    (a.host id depth).IsAttended (a.gallery id may) all := by
  induction depth generalizing all with
  | zero => exact hostWith_isAttended (fun _ _ _ => goes_pure ()) hall
  | succ depth ih => exact hostWith_isAttended (fun l n heard => Conduct.goes_run (ih (hmay l)) (hreacts l n heard)) hall

end Assembly

end Colloquy
