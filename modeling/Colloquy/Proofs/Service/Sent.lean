import Colloquy.Proofs.Service.Hearing

/-!
# Where a draft goes

A send that succeeds takes the draft of the current session away, once, and puts it where it belongs: into the history of the
session and into the request. Where no session is current it goes through a new one (`Outlook.Sends`). All that is noted of it,
in a host whose listeners leave the service alone, is what is announced of that, and one question for a context.
-/

namespace Colloquy

variable {π W τ : Type}

namespace Directory

variable {d : Directory} {id : Uuid} {x : Session}

/-- The current session is the one of the current key. -/
theorem session?_currentKey (d : Directory) : d.session? d.currentKey = some d.currentSession := by
  rw [currentKey_eq, currentSession]
  cases hs : d.current.bind d.get? with
  | none => rfl
  | some s =>
    obtain ⟨id, -, hget⟩ := Option.bind_eq_some_iff.mp hs
    rw [← id_of_get? hget] at hget
    exact hget

theorem current_of_currentKey (h : d.currentKey = .listed id) : d.current = some id := by
  unfold currentKey at h
  split at h
  next j hj =>
    split at h
    · rw [hj, SessionKey.listed.inj h]
    · cases h
  next => cases h

/-- A session that is selected is the current one. -/
theorem currentSession_of_get? (hc : d.current = some id) (hx : d.get? id = some x) :
    d.currentKey = .listed id ∧ d.currentSession = x := by
  have hbind : d.current.bind d.get? = some x := by rw [hc, Option.bind_some, hx]
  rw [currentKey_eq, currentSession, hbind, ← id_of_get? hx]
  exact ⟨rfl, rfl⟩

end Directory

namespace Outlook

/-- What is seen once the selection among the assistants has been read. -/
def healed (o : Outlook π τ) : Outlook π τ :=
  { o with service := { o.service with roster := o.service.roster.heal } }

/-- What comes of a send that succeeds. `id` is the identifier for a new session, `context` what was given for a context. -/
structure Sends (note : τ → Note π → τ) (before : Outlook π τ) (id : Uuid) (context : Option Json) (user assistant : Stamp)
    (p : Pending π) (after : Outlook π τ) : Prop where
  /-- The request has the draft of the session that was current, what was said in it before, and the context. -/
  request : p.request =
    ⟨before.service.directory.currentSession.prompt, before.service.directory.currentSession.history, context⟩
  /-- The assistant that is selected is to answer it, and its selection is remembered afterwards. -/
  provider : before.service.roster.selectedProvider? = some p.provider ∧ after.service.roster = before.service.roster.heal
  /-- The session that is current then has the response under way. -/
  current : after.service.directory.currentKey = .listed p.session ∧
    after.service.directory.currentSession.owns p.generation = true
  /-- Its draft is empty. -/
  prompt : after.service.directory.currentSession.prompt = ""
  /-- Its history has two messages more, the draft and the empty message of the assistant. -/
  history : after.service.directory.currentSession.history =
    before.service.directory.currentSession.history ++
      [.new user .user before.service.directory.currentSession.prompt, .new assistant .assistant ""]
  /-- Where no session was current, a new one was made at the end, and the draft of the null session is gone; this was
  announced before the context was asked for. -/
  opens : before.service.directory.currentKey = .null →
    after.service.directory = ⟨before.service.directory.null.setPrompt "",
      before.service.directory.sessions ++ [after.service.directory.currentSession], some id⟩ ∧
    after.service.directory.currentSession =
      ((Session.new id).setPrompt before.service.directory.null.prompt).begun user assistant ∧
    after.told = [.announced (.sessionCreated id) ⟨before.service.roster.heal, before.service.directory.add id⟩,
      .announced (.sessionSelected (.listed id)) ⟨before.service.roster.heal, before.service.directory.opened id⟩,
      .asked context,
      .announced (.session (.listed id) (.active true)) after.service,
      .announced (.session (.listed id) (.response (.new assistant .assistant ""))) after.service].foldl note before.told
  /-- Otherwise the current session is the same as before, and it alone has changed. -/
  keeps : before.service.directory.currentKey ≠ .null →
    after.service.directory = { before.service.directory with
      sessions := before.service.directory.sessions.map fun s =>
        if s.id = p.session then after.service.directory.currentSession else s } ∧
    after.service.directory.currentSession = before.service.directory.currentSession.begun user assistant ∧
    after.told = [.asked context,
      .announced (.session (.listed p.session) (.active true)) after.service,
      .announced (.session (.listed p.session) (.response (.new assistant .assistant ""))) after.service].foldl note
        before.told
  isQuiet : after.isQuiet = before.isQuiet

variable {note : τ → Note π → τ} {o : Outlook π τ} {id : Uuid} {provider : π}

/-- What a new session starts with the draft of the null session is sent as it should be. -/
theorem sends_opened (hp : o.service.roster.selectedProvider? = some provider)
    (hkey : o.service.directory.currentKey = .null) (hfresh : o.service.directory.get? id = none)
    (hnil : o.service.directory.null.history = []) {x : Session}
    (hx : x = (Session.new id).setPrompt o.service.directory.null.prompt) (context : Option Json) (user assistant : Stamp)
    {d : Directory} (hd : d = (o.service.directory.opened id).put (.listed id) (x.begun user assistant)) :
    o.Sends note id context user assistant ⟨id, x.generation + 1, provider, x.request context⟩
      (o.healed.noting note d ([.announced (.sessionCreated id) ⟨o.service.roster.heal, o.service.directory.add id⟩,
        .announced (.sessionSelected (.listed id)) ⟨o.service.roster.heal, o.service.directory.opened id⟩] ++
        [.asked context, .announced (.session (.listed id) (.active true)) ⟨o.service.roster.heal, d⟩,
          .announced (.session (.listed id) (.response (.new assistant .assistant ""))) ⟨o.service.roster.heal, d⟩])) := by
  have hopened : d = ⟨o.service.directory.null.setPrompt "",
      o.service.directory.sessions ++ [x.begun user assistant], some id⟩ := by
    subst hx
    exact hd.trans (Directory.put_concat hfresh rfl _)
  have hbefore : o.service.directory.currentSession = o.service.directory.null := by
    have hsession := o.service.directory.session?_currentKey
    rw [hkey] at hsession
    exact (Option.some.inj hsession).symm
  have hget : d.get? id = some (x.begun user assistant) := by
    subst hx
    rw [hopened]
    exact Directory.get?_concat hfresh rfl
  obtain ⟨hcurrent, hsession⟩ := Directory.currentSession_of_get? (by rw [hopened]) hget
  have howns : (x.begun user assistant).owns (x.generation + 1) = true := (Session.owns_iff _ _).mpr ⟨rfl, rfl⟩
  have hprompt : x.prompt = o.service.directory.null.prompt := by rw [hx]; rfl
  have hhistory : x.history = o.service.directory.null.history := by rw [hx, hnil]; rfl
  refine ⟨?_, ⟨hp, rfl⟩, ⟨hcurrent, ?_⟩, ?_, ?_, fun _ => ⟨?_, ?_, rfl⟩, fun hne => absurd hkey hne, rfl⟩
  · rw [hbefore, ← hprompt, ← hhistory]
    rfl
  · rw [noting_directory, hsession]
    exact howns
  · rw [noting_directory, hsession]
    rfl
  · rw [noting_directory, hsession, hbefore, ← hprompt, ← hhistory]
    rfl
  · rw [noting_directory, hsession]
    exact hopened
  · rw [noting_directory, hsession, hx]

/-- What an idle session starts with its own draft is sent as it should be. -/
theorem sends_kept (hp : o.service.roster.selectedProvider? = some provider) {x : Session}
    (hkey : o.service.directory.currentKey = .listed x.id) (hx : o.service.directory.get? x.id = some x)
    (context : Option Json) (user assistant : Stamp) {d : Directory}
    (hd : d = o.service.directory.put (.listed x.id) (x.begun user assistant)) :
    o.Sends note id context user assistant ⟨x.id, x.generation + 1, provider, x.request context⟩
      (o.healed.noting note d ([] ++ [.asked context,
        .announced (.session (.listed x.id) (.active true)) ⟨o.service.roster.heal, d⟩,
        .announced (.session (.listed x.id) (.response (.new assistant .assistant ""))) ⟨o.service.roster.heal, d⟩])) := by
  obtain ⟨-, hbefore⟩ := Directory.currentSession_of_get? (Directory.current_of_currentKey hkey) hx
  have hget : d.get? x.id = some (x.begun user assistant) := by
    have hid : (x.begun user assistant).id = x.id := rfl
    rw [hd, Directory.get?_put hid, if_pos rfl, hx, Option.map_some]
  have hd' : d.current = o.service.directory.current := by rw [hd]; rfl
  obtain ⟨hcurrent, hsession⟩ := Directory.currentSession_of_get? (hd'.trans (Directory.current_of_currentKey hkey)) hget
  refine ⟨?_, ⟨hp, rfl⟩, ⟨hcurrent, ?_⟩, ?_, ?_, fun hnull => ?_, fun _ => ⟨?_, ?_, rfl⟩, rfl⟩
  · rw [hbefore]
    rfl
  · rw [noting_directory, hsession]
    exact (Session.owns_iff _ _).mpr ⟨rfl, rfl⟩
  · rw [noting_directory, hsession]
    rfl
  · rw [noting_directory, hsession, hbefore]
    rfl
  · rw [hkey] at hnull
    cases hnull
  · rw [noting_directory, hsession]
    exact hd
  · rw [noting_directory, hsession, hbefore]

end Outlook

namespace Service

open Outlook

section Operations

variable {host : Host π (StateM W)} {view : W → Outlook π τ} {note : τ → Note π → τ} (h : host.IsHeard view note) {w : W}

include h

/-- To look for the selection is to heal it, which is not noted. -/
theorem view_selected_of_isHeard (w : W) : view ((selected host).run w).2 = (view w).healed := by
  rw [run_selected h.isSeen]
  exact h.setState _ w

theorem run_selected_fst (w : W) : ((selected host).run w).1 = (view w).service.roster.selection := by
  rw [selected, run_state_bind h.isSeen]
  rfl

/-- When there is an assistant and a session that is idle, a send asks for a context and starts a response. -/
theorem exists_send_of_ensured (hq : (view w).isQuiet) {provider : π}
    (hp : (view w).service.roster.selectedProvider? = some provider) {id : Uuid} {d : Directory} {notes : List (Note π)}
    (he : Does view note ((selected host).run w).2 (ensureSession host) (.ok (.listed id)) d notes) {x : Session}
    (hx : d.get? id = some x) (hn : x.isNull = false) (ha : x.isActive = false) :
    ∃ context user assistant, ((send host).run w).1 = .ok ⟨id, x.generation + 1, provider, x.request context⟩ ∧
      view ((send host).run w).2 = (view w).healed.noting note
        (d.put (.listed id) (x.begun user assistant))
        (notes ++ [.asked context,
          .announced (.session (.listed id) (.active true))
            ⟨(view w).service.roster.heal, d.put (.listed id) (x.begun user assistant)⟩,
          .announced (.session (.listed id) (.response (.new assistant .assistant "")))
            ⟨(view w).service.roster.heal, d.put (.listed id) (x.begun user assistant)⟩]) := by
  have hlook := run_selectedProvider h.isSeen w
  have hview := view_selected_of_isHeard h w
  rw [hp] at hlook
  rw [send, run_bind_of_run hlook, ← hview]
  generalize ((selected host).run w).2 = v at he hview
  have hu := he.2
  have ht := (does_context h (w := ((ensureSession host).run v).2)).2
  generalize hcontext : host.context.run ((ensureSession host).run v).2 = asked at ht
  have hsession : (view asked.2).service.directory.session? (.listed id) = some x := by
    rw [ht, hu]
    exact hx
  obtain ⟨user, assistant, hstart⟩ :=
    does_startResponse h (by rw [ht, hu, hview]; exact hq) hsession hn ha provider asked.1
  refine ⟨asked.1, user, assistant, ?_⟩
  rw [run_bind_of_run (Prod.ext he.1 rfl)]
  dsimp only
  rw [run_bind_of_run hcontext, hstart.1, hstart.2, ht, hu, hview, noting_noting, noting_noting, Directory.id_of_get? hx]
  exact ⟨rfl, rfl⟩

/-- A send that succeeds does what it should. -/
theorem sends (hr : (view w).service.IsReached) (hq : (view w).isQuiet)
    (hfresh : (view w).service.directory.currentKey = .null →
      (view w).service.directory.get? (host.newId.run w).1 = none)
    {p : Pending π} (hp : ((send host).run w).1 = .ok p) :
    ∃ context user assistant,
      (view w).Sends note (host.newId.run w).1 context user assistant p (view ((send host).run w).2) := by
  have hfails := (sendsCleanly h.isSeen hr hq hfresh).fails_iff
  have hsomebody : (view w).service.roster.selectedProvider? ≠ none := by
    intro hnone
    have herror := (hfails _).mpr (.inl ⟨(Roster.selectedProvider?_eq_none_iff _).mp hnone, rfl⟩)
    rw [hp] at herror
    cases herror
  have hidle : ¬(view w).service.directory.IsBusy := by
    intro hb
    have hentries := mt (Roster.selectedProvider?_eq_none_iff _).mpr hsomebody
    have herror := (hfails _).mpr (.inr ⟨hentries, hb, rfl⟩)
    rw [hp] at herror
    cases herror
  obtain ⟨provider, hprovider⟩ := Option.ne_none_iff_exists'.mp hsomebody
  have hview := view_selected_of_isHeard h w
  rcases Directory.current_of_not_isBusy hidle with hkey | ⟨x, hkey, hx, ha⟩
  · have hdraws : (host.newId.run ((selected host).run w).2).1 = (host.newId.run w).1 := by
      rw [run_selected h.isSeen]
      exact h.newId_setState _ w
    have hensure := does_ensureSession h (w := ((selected host).run w).2) (by rw [hview]; exact hq) (by rw [hview]; rfl)
      hkey hdraws (hfresh hkey)
    obtain ⟨context, user, assistant, hok, hafter⟩ :=
      exists_send_of_ensured h hq hprovider hensure (Directory.get?_concat (hfresh hkey) rfl) rfl rfl
    obtain ⟨d, hd, hservice⟩ := hr
    have hnil := hd.isVacant.isBlank.history
    rw [hservice] at hnil
    obtain rfl := Except.ok.inj (hp.symm.trans hok)
    refine ⟨context, user, assistant, ?_⟩
    rw [hafter, hview]
    exact sends_opened hprovider hkey (hfresh hkey) hnil rfl context user assistant rfl
  · have hensure : Does view note ((selected host).run w).2 (ensureSession host) (.ok (.listed x.id))
        (view w).service.directory [] := by
      have hrun := run_ensureSession_of_current h.isSeen (w := ((selected host).run w).2) (by rw [hview]; exact hkey)
      rw [Does, hrun, hview]
      exact ⟨rfl, rfl⟩
    obtain ⟨context, user, assistant, hok, hafter⟩ :=
      exists_send_of_ensured h hq hprovider hensure hx (hr.isNull hx) ha
    obtain rfl := Except.ok.inj (hp.symm.trans hok)
    refine ⟨context, user, assistant, ?_⟩
    rw [hafter]
    exact sends_kept hprovider hkey hx context user assistant rfl

end Operations

end Service

end Colloquy
