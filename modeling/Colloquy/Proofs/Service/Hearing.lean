import Colloquy.Proofs.Service.Refusal

/-!
# What listeners make of it

A host may take note of what it announces, with the service as its listeners find it then, and of the contexts that it is asked
for (`Note`). Where the listeners leave the service alone, what an operation does to the sessions and what is noted of it, in
which order, is all that it does (`Outlook.Does`).
-/

namespace Colloquy

variable {π : Type}

/-- What a host takes note of: an announcement, with the service as it is then; or that it was asked for a context, with what it
gave. -/
inductive Note (π : Type) where
  | announced (a : Announcement) (service : Service π)
  | asked (context : Option Json)

variable {W α β τ : Type}

/-- The host shows what it does and what its listeners make of it: `note` says how what they have been told grows by a note. Nothing
else is told, and what the host draws does not depend on the service. -/
structure Host.IsHeard (host : Host π (StateM W)) (view : W → Outlook π τ) (note : τ → Note π → τ) : Prop where
  state : ∀ w, host.state.run w = ((view w).service, w)
  setState : ∀ s w, view ((host.setState s).run w).2 = { view w with service := s }
  announce : ∀ a w, (view w).isQuiet → view ((host.announce a).run w).2 =
    { view w with told := note (view w).told (.announced a (view w).service) }
  newId : ∀ w, view (host.newId.run w).2 = view w
  newStamp : ∀ w, view (host.newStamp.run w).2 = view w
  context : ∀ w, view (host.context.run w).2 =
    { view w with told := note (view w).told (.asked (host.context.run w).1) }
  newId_setState : ∀ s w, (host.newId.run ((host.setState s).run w).2).1 = (host.newId.run w).1

/-- What is heard of a host is seen of it. -/
theorem Host.IsHeard.isSeen {host : Host π (StateM W)} {view : W → Outlook π τ} {note : τ → Note π → τ}
    (h : host.IsHeard view note) : host.IsSeen fun w => (⟨(view w).service, (), (view w).isQuiet⟩ : Outlook π Unit) where
  state := h.state
  setState s w := by rw [h.setState]
  announce a w hq := ⟨(), by rw [h.announce a w hq]⟩
  newId w := by rw [h.newId]
  newStamp w := by rw [h.newStamp]
  context w := by rw [h.context]
  newId_setState := h.newId_setState

namespace Directory

variable {d : Directory} {id : Uuid}

/-- The sessions once a new one was made that took over the draft of the null session and was selected. -/
def opened (d : Directory) (id : Uuid) : Directory where
  null := d.null.setPrompt ""
  sessions := d.sessions ++ [(Session.new id).setPrompt d.null.prompt]
  current := some id

theorem get?_concat (hfresh : d.get? id = none) {x null : Session} {current : Option Uuid} (hx : x.id = id) :
    Directory.get? ⟨null, d.sessions ++ [x], current⟩ id = some x := by
  have hnone : (d.sessions.find? fun s => s.id = id) = none := hfresh
  simp [get?, hnone, hx]

/-- The last session is replaced where it is, if no other one has its identifier. -/
theorem put_concat (hfresh : d.get? id = none) {x null : Session} {current : Option Uuid} (hx : x.id = id) (y : Session) :
    Directory.put ⟨null, d.sessions ++ [x], current⟩ (.listed id) y = ⟨null, d.sessions ++ [y], current⟩ := by
  have hothers : (d.sessions.map fun s => if s.id = id then y else s) = d.sessions :=
    congrArg sessions (put_of_none (show d.session? (.listed id) = none from hfresh) y)
  rw [put, List.map_append, hothers, List.map_singleton, if_pos hx]

theorem change_concat (hfresh : d.get? id = none) {x null : Session} {current : Option Uuid} (hx : x.id = id)
    (f : Session → Session) :
    Directory.change ⟨null, d.sessions ++ [x], current⟩ (.listed id) f = ⟨null, d.sessions ++ [f x], current⟩ := by
  have hsome : Directory.session? ⟨null, d.sessions ++ [x], current⟩ (.listed id) = some x := get?_concat hfresh hx
  rw [change_of_some hsome, put_concat hfresh hx]

end Directory

namespace Outlook

/-- What is seen once the sessions are those of a directory and some notes have been taken. -/
def noting (o : Outlook π τ) (note : τ → Note π → τ) (d : Directory) (notes : List (Note π)) : Outlook π τ :=
  { o with service := { o.service with directory := d }, told := notes.foldl note o.told }

@[simp] theorem noting_directory (o : Outlook π τ) (note : τ → Note π → τ) (d : Directory) (notes : List (Note π)) :
    (o.noting note d notes).service.directory = d := rfl

theorem noting_noting (o : Outlook π τ) (note : τ → Note π → τ) (d e : Directory) (notes more : List (Note π)) :
    (o.noting note d notes).noting note e more = o.noting note e (notes ++ more) := by
  rw [noting, noting, noting, List.foldl_append]

variable {view : W → Outlook π τ} {note : τ → Note π → τ} {w : W} {x : StateM W α} {a : α} {d : Directory}
  {notes : List (Note π)}

/-- From a state of the host, a program gives a result, leaves the sessions as they are in a directory, and has some notes taken
of it, in their order. Nothing else is changed. -/
def Does (view : W → Outlook π τ) (note : τ → Note π → τ) (w : W) (x : StateM W α) (a : α) (d : Directory)
    (notes : List (Note π)) : Prop :=
  (x.run w).1 = a ∧ view (x.run w).2 = (view w).noting note d notes

theorem does_pure (a : α) (hd : (view w).service.directory = d) : Does view note w (pure a) a d [] := by
  subst hd
  exact ⟨rfl, rfl⟩

theorem Does.bind (hx : Does view note w x a d notes) {k : α → StateM W β} {b : β} {d' : Directory}
    {more : List (Note π)}
    (hk : ∀ v, (x.run w).2 = v → view v = (view w).noting note d notes → Does view note v (k a) b d' more) :
    Does view note w (x >>= k) b d' (notes ++ more) := by
  obtain ⟨rfl, hv⟩ := hx
  obtain ⟨hb, hu⟩ := hk (x.run w).2 rfl hv
  rw [hv, noting_noting] at hu
  exact ⟨hb, hu⟩

end Outlook

namespace Service

open Outlook

section Operations

variable {host : Host π (StateM W)} {view : W → Outlook π τ} {note : τ → Note π → τ} (h : host.IsHeard view note) {w : W}

include h

theorem does_state_bind {k : Service π → StateM W β} {b : β} {d : Directory} {notes : List (Note π)}
    (hk : Does view note w (k (view w).service) b d notes) : Does view note w (host.state >>= k) b d notes := by
  have hrun : (host.state >>= k).run w = (k (view w).service).run w := by
    rw [StateT.run_bind, h.state]
    rfl
  rw [Does, hrun]
  exact hk

theorem does_setDirectory (directory : Directory) : Does view note w (setDirectory host directory) () directory [] :=
  does_state_bind h ⟨rfl, h.setState _ w⟩

theorem does_announce (hq : (view w).isQuiet) (a : Announcement) :
    Does view note w (host.announce a) () (view w).service.directory [.announced a (view w).service] :=
  ⟨rfl, h.announce a w hq⟩

/-- The notices of a session are heard in their order, all while the service is as it is. -/
theorem does_deliver (hq : (view w).isQuiet) (key : SessionKey) (notices : List Notice) :
    Does view note w (deliver host key notices) () (view w).service.directory
      (notices.map fun n => .announced (.session key n) (view w).service) := by
  induction notices generalizing w with
  | nil => exact does_pure () rfl
  | cons n rest ih =>
    refine (does_announce h hq _).bind fun v _ hv => ?_
    have hrest := ih (w := v) (by rw [hv]; exact hq)
    rwa [hv] at hrest

/-- An operation of a session changes the session first; its notices are heard afterwards. -/
theorem does_operate (hq : (view w).isQuiet) {key : SessionKey} {s : Session}
    (hs : (view w).service.directory.session? key = some s) (operation : Session → Session × List Notice) :
    Does view note w (operate host key operation) () ((view w).service.directory.put key (operation s).1)
      ((operation s).2.map fun n => .announced (.session key n)
        { (view w).service with directory := (view w).service.directory.put key (operation s).1 }) := by
  refine does_state_bind h ?_
  dsimp only
  rw [hs]
  refine (does_setDirectory h _).bind fun v _ hv => ?_
  have hdeliver := does_deliver h (w := v) (by rw [hv]; exact hq) key (operation s).2
  rwa [hv] at hdeliver

theorem does_newSession (hq : (view w).isQuiet) {id : Uuid} (hid : (host.newId.run w).1 = id) :
    Does view note w (newSession host) id ((view w).service.directory.add id)
      [.announced (.sessionCreated id)
        { (view w).service with directory := (view w).service.directory.add id }] := by
  have hnew : Does view note w host.newId id (view w).service.directory [] := ⟨hid, h.newId w⟩
  refine hnew.bind fun v _ hv => does_state_bind h ?_
  rw [hv]
  refine (does_setDirectory h _).bind fun u _ hu => ?_
  have hannounce := does_announce h (w := u) (by rw [hu, hv]; exact hq) (.sessionCreated id)
  rw [hu, hv] at hannounce
  exact hannounce.bind fun t _ ht => does_pure _ (by rw [ht, hu, hv]; rfl)

theorem does_takePrompt_null :
    Does view note w (takePrompt host .null) (view w).service.directory.null.prompt
      { (view w).service.directory with null := (view w).service.directory.null.setPrompt "" } [] := by
  refine does_state_bind h ((does_setDirectory h _).bind fun v _ hv => ?_)
  exact does_pure _ (by rw [hv]; rfl)

theorem does_selectSession (hq : (view w).isQuiet) (target : Option Uuid) {directory : Directory}
    (hd : (view w).service.directory.select target = .ok directory) :
    Does view note w (selectSession host target) (.ok (target.elim .null .listed)) directory
      [.announced (.sessionSelected (target.elim .null .listed)) { (view w).service with directory }] := by
  refine does_state_bind h ?_
  rw [hd]
  refine (does_setDirectory h directory).bind fun v _ hv => ?_
  have hannounce := does_announce h (w := v) (by rw [hv]; exact hq) (.sessionSelected (target.elim .null .listed))
  rw [hv] at hannounce
  exact hannounce.bind fun u _ hu => does_pure _ (by rw [hu, hv]; rfl)

theorem does_context :
    Does view note w host.context (host.context.run w).1 (view w).service.directory [.asked (host.context.run w).1] :=
  ⟨rfl, h.context w⟩

/-- Where no session is current, one is made. It takes over the draft and is selected. -/
theorem does_ensureSession (hq : (view w).isQuiet) {d : Directory} (hd : (view w).service.directory = d)
    (hkey : d.currentKey = .null) {id : Uuid} (hid : (host.newId.run w).1 = id) (hfresh : d.get? id = none) :
    Does view note w (ensureSession host) (.ok (.listed id)) (d.opened id)
      [.announced (.sessionCreated id) { (view w).service with directory := d.add id },
        .announced (.sessionSelected (.listed id)) { (view w).service with directory := d.opened id }] := by
  have hfilled : Directory.change { d.add id with null := d.null.setPrompt "" } (.listed id) (·.setPrompt d.null.prompt) =
      { d.opened id with current := d.current } := Directory.change_concat hfresh rfl _
  have hselect : Directory.select { d.opened id with current := d.current } (some id) = .ok (d.opened id) := by
    rw [Directory.select, Directory.opened, Directory.get?_concat hfresh rfl]
    rfl
  refine does_state_bind h ?_
  rw [hd, hkey]
  have hnew := does_newSession h hq hid
  rw [hd] at hnew
  refine hnew.bind fun v _ hv => ?_
  have htake := does_takePrompt_null h (w := v)
  rw [hv] at htake
  refine htake.bind fun u _ hu => does_state_bind h ?_
  rw [hu, hv]
  refine (does_setDirectory h _).bind fun t _ ht => ?_
  have hselected := does_selectSession h (w := t) (by rw [ht, hu, hv]; exact hq) (some id)
    (by rw [ht]; exact hfilled ▸ hselect)
  rwa [ht, hu, hv] at hselected

/-- An idle session starts what it is asked to, and tells of it. -/
theorem does_startResponse (hq : (view w).isQuiet) {key : SessionKey} {x : Session}
    (hx : (view w).service.directory.session? key = some x) (hn : x.isNull = false) (ha : x.isActive = false)
    (provider : π) (context : Option Json) :
    ∃ user assistant, Does view note w (startResponse host key (some provider) context)
      (.ok ⟨x.id, x.generation + 1, provider, x.request context⟩)
      ((view w).service.directory.put key (x.begun user assistant))
      ([.active true, .response (.new assistant .assistant "")].map fun n => .announced (.session key n)
        { (view w).service with directory := (view w).service.directory.put key (x.begun user assistant) }) := by
  refine ⟨(host.newStamp.run w).1, (host.newStamp.run (host.newStamp.run w).2).1, ?_⟩
  have hstamp (v : W) : Does view note v host.newStamp (host.newStamp.run v).1 (view v).service.directory [] :=
    ⟨rfl, h.newStamp v⟩
  refine (hstamp w).bind fun v hwv hv => ?_
  subst hwv
  refine (hstamp _).bind fun u _ hu => does_state_bind h ?_
  have hservice : (view u).service = (view w).service := by rw [hu, hv]; rfl
  dsimp only
  rw [hservice, Directory.session, hx, Option.getD_some, Session.start_of_idle hn ha]
  refine (does_setDirectory h _).bind fun t _ ht => ?_
  have hdeliver := does_deliver h (w := t) (by rw [ht, hu, hv]; exact hq) key
    [.active true, .response (.new (host.newStamp.run (host.newStamp.run w).2).1 .assistant "")]
  rw [ht, hu, hv] at hdeliver
  exact hdeliver.bind fun r _ hr => does_pure _ (by rw [hr, ht, hu, hv]; rfl)

end Operations

end Service

end Colloquy
