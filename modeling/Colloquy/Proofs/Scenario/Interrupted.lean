import Colloquy.Proofs.Scenario.Answering
import Colloquy.Proofs.Scenario.Sending

/-!
# A listener that cancels

A listener of a host may be set to cancel a session when it is shown some message of it. While pieces of text of a response are
heard, it lets the first ones pass; with the one that it waits for it cancels, before anything else is done (`CancelsAt.heardOf`).
-/

namespace Colloquy

/-- What is put in a place replaces what was put there before. -/
theorem Directory.put_put (d : Directory) (id : Uuid) {s t : Session} (hs : s.id = id) :
    (d.put (.listed id) s).put (.listed id) t = d.put (.listed id) t := by
  simp only [put, List.map_map]
  congr 2
  funext x
  by_cases hx : x.id = id <;> simp [hx, hs]

namespace Session

/-- The session with a text added to its newest message. -/
def saying (s : Session) (text : String) : Session :=
  s.withLast fun m => { m with content := m.content ++ text }

theorem saying_saying (s : Session) (a b : String) : (s.saying a).saying b = s.saying (a ++ b) := by
  have hlength : (s.history.modify (s.history.length - 1) fun m => { m with content := m.content ++ a }).length = s.history.length :=
    List.length_modify _ _ _
  simp only [saying, withLast, hlength, List.modify_modify_eq, Function.comp_def, String.append_assoc]

theorem last?_saying {s : Session} {m : Message} (hm : s.last? = some m) (text : String) :
    (s.saying text).last? = some { m with content := m.content ++ text } := by
  rw [last?, List.getLast?_eq_getElem?] at hm ⊢
  rw [saying, withLast, List.length_modify, List.getElem?_modify_eq, hm]
  rfl

/-- What a piece of text of the active generation does. -/
theorem applyDelta_of_owns {s : Session} {g : Nat} (ho : s.owns g = true) {m : Message} (hm : s.last? = some m) (text : String) :
    s.applyDelta g text = (s.saying text, [.response { m with content := m.content ++ text }]) := by
  have hlast := last?_saying hm text
  simp only [applyDelta, ho, if_true, amendLast_eq_withLast]
  rw [← saying, lastNotice, hlast]
  rfl

/-- The session with a text added to its newest message, and the active generation cancelled. -/
theorem cancel_saying {s : Session} {g : Nat} (ho : s.owns g = true) {m : Message} (hm : s.last? = some m) (text : String) :
    (s.saying text).cancel.1 = { s with
      history := s.history.dropLast ++ [{ m with content := m.content ++ text }], isActive := false, stopped := s.stopped ++ [g] } := by
  obtain ⟨ha, rfl⟩ := (owns_iff s g).mp ho
  rw [saying, ← amendLast_eq_withLast]
  simp [amendLast, hm, cancel, ha, stop]

theorem id_cancel (s : Session) : s.cancel.1.id = s.id := by
  rw [cancel]
  split <;> rfl

end Session

namespace Scenario

/-! ## Sessions in a host -/

/-- The host with a session in its place. -/
def HostState.place (w : HostState) (s : Session) : HostState :=
  { w with service.directory := w.service.directory.put (.listed s.id) s }

section Place

variable (w : HostState) {s t : Session}

theorem place_place (h : s.id = t.id) : (w.place s).place t = w.place t := by
  simp only [HostState.place, h, Directory.put_put]

theorem get?_place {w : HostState} (hs : w.service.directory.get? s.id = some t) :
    (w.place s).service.directory.get? s.id = some s := by
  rw [HostState.place, Directory.get?_put rfl, if_pos rfl, hs]
  rfl

theorem map_id_place (s : Session) :
    (w.place s).service.directory.sessions.map Session.id = w.service.directory.sessions.map Session.id := by
  simp only [HostState.place, Directory.put, List.map_map]
  refine List.map_congr_left fun x _ => ?_
  by_cases hx : x.id = s.id <;> simp [hx]

/-- The labels of sessions do not change. -/
theorem label_place (s : Session) (key : SessionKey) : (w.place s).label key = w.label key := by
  cases key with
  | null => rfl
  | listed j =>
    have hids : (fun x : Session => decide ((if x.id = s.id then s else x).id = j)) = fun x => decide (x.id = j) := by
      funext x
      by_cases hx : x.id = s.id <;> simp [hx]
    simp only [HostState.place, HostState.label, Directory.put, List.findIdx?_map, Function.comp_def, hids]

theorem key?_place (s : Session) (l : SessionLabel) : (w.place s).key? l = w.key? l := by
  cases l with
  | nth n =>
    simp only [HostState.place, HostState.key?, Directory.put, List.getElem?_map, Option.map_map]
    congr 1
    funext x
    by_cases hx : x.id = s.id <;> simp [hx]
  | _ => rfl

end Place

/-! ## Where nobody takes a step -/

/-- Nobody waits for what is told of the session of a label. -/
def Deaf (l : SessionLabel) (hooks : List Hook) : Prop :=
  ∀ h ∈ hooks, h.hears .active (some l) = false ∧ h.hears .response (some l) = false

/-- The hooks of which one counts an event: that one is due, or goes on waiting. -/
theorem countHooks_of_heard {w : HostState} {kind : EventKind} {session : Option SessionLabel} {before after : List Hook} {h : Hook}
    (hhooks : w.hooks = before ++ h :: after) (hh : h.hears kind session = true)
    (hu : ∀ x ∈ before ++ after, x.hears kind session = false) :
    w.countHooks kind session =
      if h.seen + 1 = h.nth then ([h], { w with hooks := before ++ after })
      else ([], { w with hooks := before ++ { h with seen := h.seen + 1 } :: after }) := by
  obtain ⟨hdue, hwaiting⟩ := count_of_unheard fun x hx => hu x (List.mem_append_left _ hx)
  obtain ⟨hdue', hwaiting'⟩ := count_of_unheard fun x hx => hu x (List.mem_append_right _ hx)
  simp only [HostState.countHooks, hhooks, List.filter_append, List.filter_cons, List.map_append, hh, hdue, hdue', hwaiting,
    Bool.true_and]
  by_cases hn : h.seen + 1 = h.nth
  · simp only [hn, decide_true, Bool.not_true, Bool.false_eq_true, if_true, if_false, hwaiting', List.nil_append]
  · simp only [hn, decide_false, Bool.not_false, Bool.false_eq_true, if_true, if_false, List.map_cons, hh, hwaiting',
      List.nil_append]

variable (again : Taker) {w : HostState} {s : Session}

theorem run_announce_of_deaf {key : SessionKey} (hd : Deaf (w.label key) w.hooks) (n : Notice) :
    ∃ events, (announce again (.session key n)).run w = ((), { w with events }) := by
  have hread : ∃ kind event, (kind = .active ∨ kind = .response) ∧ (announce again (.session key n)).run w =
      (if w.watched.contains key then hear again kind (some (w.label key)) event else pure () : Play Unit).run w := by
    cases n with
    | active value => exact ⟨_, _, .inl rfl, rfl⟩
    | response m => exact ⟨_, _, .inr rfl, rfl⟩
  obtain ⟨kind, event, hkind, hrun⟩ := hread
  rw [hrun]
  split
  · rw [run_hear_of_unheard again fun h hh => by rcases hkind with rfl | rfl <;> simp [hd h hh]]
    exact ⟨_, rfl⟩
  · exact ⟨_, rfl⟩

theorem run_deliver_of_deaf {key : SessionKey} (hd : Deaf (w.label key) w.hooks) (notices : List Notice) :
    ∃ events, (Service.deliver (host again) key notices).run w = ((), { w with events }) := by
  induction notices generalizing w with
  | nil => exact ⟨_, rfl⟩
  | cons n rest ih =>
    obtain ⟨events, hannounce⟩ := run_announce_of_deaf again hd n
    have hfirst : ((host again).announce (.session key n)).run w = ((), { w with events }) := hannounce
    obtain ⟨events', hrest⟩ := ih (w := { w with events }) hd
    refine ⟨events', ?_⟩
    rw [Service.deliver, StateT.run_bind, hfirst]
    exact hrest

/-- A cancel of a session for which nobody waits. -/
theorem run_cancelSession_of_deaf (hs : w.service.directory.get? s.id = some s) (hd : Deaf (w.label (.listed s.id)) w.hooks) :
    ∃ events, (Service.cancelSession (host again) (.listed s.id)).run w = ((), { w.place s.cancel.1 with events }) := by
  have hsession : w.service.directory.session? (.listed s.id) = some s := hs
  rw [Service.cancelSession, run_operate, hsession, Option.elim_some]
  have hplace : { w with service.directory := w.service.directory.put (.listed s.id) s.cancel.1 } = w.place s.cancel.1 := by
    rw [HostState.place, Session.id_cancel]
  rw [hplace]
  exact run_deliver_of_deaf again (by rw [label_place]; exact hd) _

/-! ## Where one listener cancels -/

/-- A listener is set to cancel a session when it is shown the `n`th message of it from now on, and nobody else waits for what is
told of this session. -/
structure CancelsAt (w : HostState) (id : Uuid) (n : Nat) : Prop where
  watched : w.watched.contains (.listed id) = true
  hook : ∃ before h after l, w.hooks = before ++ h :: after ∧ h.hears .response (some (w.label (.listed id))) = true ∧
    h.seen + n = h.nth ∧ h.step = .cancelSession l ∧ w.key? l = some (.listed id) ∧ Deaf (w.label (.listed id)) (before ++ after)

/-- A message that is shown of a session that is listened to is noted, and counted by the hooks. -/
theorem exists_run_announce_response {key : SessionKey} (hw : w.watched.contains key = true) (m : Message) :
    ∃ event, (announce again (.session key (.response m))).run w =
      (runHooks again ((w.note event).countHooks .response (some (w.label key))).1).run
        ((w.note event).countHooks .response (some (w.label key))).2 := by
  have hread : ∃ event, (announce again (.session key (.response m))).run w =
      (if w.watched.contains key then hear again .response (some (w.label key)) event else pure () : Play Unit).run w := ⟨_, rfl⟩
  obtain ⟨event, hrun⟩ := hread
  rw [if_pos hw] at hrun
  exact ⟨event, hrun⟩

namespace CancelsAt

variable {id : Uuid} {n : Nat}

/-- What is done to the session does not count. -/
theorem place (h : CancelsAt w id n) (s : Session) : CancelsAt (w.place s) id n := by
  obtain ⟨before, hook, after, l, hhooks, hhears, hseen, hstep, hl, hdeaf⟩ := h.hook
  refine ⟨h.watched, before, hook, after, l, hhooks, ?_, hseen, hstep, (key?_place w s l).trans hl, ?_⟩
  · rw [label_place]
    exact hhears
  · rw [label_place]
    exact hdeaf

/-- The listener goes on waiting for the message that it is set to. -/
theorem run_announce_before (h : CancelsAt w id (n + 2)) (m : Message) :
    ∃ events hooks, (announce again (.session (.listed id) (.response m))).run w = ((), { w with events, hooks }) ∧
      CancelsAt { w with events, hooks } id (n + 1) := by
  obtain ⟨event, hrun⟩ := exists_run_announce_response again h.watched m
  obtain ⟨before, hook, after, l, hhooks, hhears, hseen, hstep, hl, hdeaf⟩ := h.hook
  have hcount := countHooks_of_heard (w := w.note event) hhooks hhears fun x hx => (hdeaf x hx).2
  rw [if_neg (by omega)] at hcount
  rw [hrun, hcount]
  refine ⟨_, _, rfl, h.watched, before, { hook with seen := hook.seen + 1 }, after, l, rfl, hhears, ?_, hstep, hl, hdeaf⟩
  change hook.seen + 1 + (n + 1) = hook.nth
  omega

/-- The listener cancels. -/
theorem run_announce_now (h : CancelsAt w s.id 1) (hs : w.service.directory.get? s.id = some s) (network : HttpRequest → Reply)
    (depth : Nat) (m : Message) :
    ∃ events hooks, (announce (perform network (depth + 1)) (.session (.listed s.id) (.response m))).run w =
      ((), { w.place s.cancel.1 with events, hooks }) := by
  obtain ⟨event, hrun⟩ := exists_run_announce_response (perform network (depth + 1)) h.watched m
  obtain ⟨before, hook, after, l, hhooks, hhears, hseen, hstep, hl, hdeaf⟩ := h.hook
  have hcount := countHooks_of_heard (w := w.note event) hhooks hhears fun x hx => (hdeaf x hx).2
  rw [if_pos hseen] at hcount
  rw [hrun, hcount]
  generalize hv : ({ w.note event with hooks := before ++ after } : HostState) = v
  have hget : v.service.directory.get? s.id = some s := hv ▸ hs
  have hkey : v.key? l = some (.listed s.id) := hv ▸ hl
  obtain ⟨events, hcancel⟩ := run_cancelSession_of_deaf (perform network depth) hget (hv ▸ hdeaf)
  have htaken : (perform network (depth + 1) true (.cancelSession l)).run v = (.ok, { v.place s.cancel.1 with events }) := by
    have honSession : (perform network (depth + 1) true (.cancelSession l)).run v =
        (onSession l fun key => do
          Service.cancelSession (host (perform network depth)) key
          return .ok).run v := rfl
    have hread : (get : Play HostState).run v = pure (v, v) := rfl
    rw [honSession, onSession, StateT.run_bind, hread, pure_bind, hkey]
    simp only [StateT.run_bind, hcancel]
    rfl
  have hhooked : (runHooks (perform network (depth + 1)) [hook]).run v =
      ((), { v.place s.cancel.1 with events }.note (.hooked hook.label .ok)) := by
    rw [runHooks, StateT.run_bind, hstep, htaken]
    rfl
  rw [hhooked, ← hv]
  exact ⟨_, _, rfl⟩

end CancelsAt

/-- A piece of text of the active generation is put to the session, and then shown. -/
theorem run_takeDelta_of_owns {p : Pending Backend} (hid : s.id = p.session) (hs : w.service.directory.get? s.id = some s)
    (ho : s.owns p.generation = true) {m : Message} (hm : s.last? = some m) (text : String) :
    (Service.takeDelta (host again) p text).run w =
      (announce again (.session (.listed s.id) (.response { m with content := m.content ++ text }))).run (w.place (s.saying text)) := by
  have hsession : w.service.directory.session? (.listed s.id) = some s := hs
  rw [Service.takeDelta, run_operate, ← hid, hsession, Option.elim_some, Session.applyDelta_of_owns ho hm]
  rfl

theorem toldToStop_of_get? {p : Pending Backend} (hid : s.id = p.session) (hs : w.service.directory.get? s.id = some s) :
    toldToStop p w = s.isStopped p.generation := by
  rw [toldToStop, ← hid, hs]
  rfl

/-- While pieces of text are heard, the listener waits for the `n`th of them, and then cancels. -/
theorem CancelsAt.exists_heardOf {p : Pending Backend} (network : HttpRequest → Reply) (depth : Nat) {n : Nat}
    {texts : List String} (hn : 0 < n) (hle : n ≤ texts.length) (hid : s.id = p.session) (h : CancelsAt w s.id n)
    (hs : w.service.directory.get? s.id = some s) (ho : s.owns p.generation = true) (hgoes : s.isStopped p.generation = false)
    {m : Message} (hm : s.last? = some m) :
    (∀ i < n, toldToStop p (heardOf (perform network (depth + 1)) p w (texts.take i)) = false) ∧
      ∃ events hooks, heardOf (perform network (depth + 1)) p w (texts.take n) =
        { w.place (s.saying (String.join (texts.take n))).cancel.1 with events, hooks } := by
  induction texts generalizing n w s m with
  | nil => exact absurd (Nat.lt_of_lt_of_le hn hle) (Nat.lt_irrefl 0)
  | cons text rest ih =>
    have hnow : toldToStop p w = false := (toldToStop_of_get? hid hs).trans hgoes
    have hput : (w.place (s.saying text)).service.directory.get? s.id = some (s.saying text) := get?_place hs
    have htaken := run_takeDelta_of_owns (perform network (depth + 1)) hid hs ho hm text
    have hheard (rest : List String) : heardOf (perform network (depth + 1)) p w (text :: rest) =
        heardOf (perform network (depth + 1)) p ((Service.takeDelta (host (perform network (depth + 1))) p text).run w).2 rest := rfl
    match n with
    | 1 =>
      obtain ⟨events, hooks, hcancel⟩ := run_announce_now (s := s.saying text) (h.place (s.saying text)) hput network depth
        { m with content := m.content ++ text }
      refine ⟨fun i hi => ?_, events, hooks, ?_⟩
      · obtain rfl : i = 0 := Nat.lt_one_iff.mp hi
        exact hnow
      · have hcancelled : (s.saying text).id = (s.saying text).cancel.1.id := (Session.id_cancel _).symm
        have hend : heardOf (perform network (depth + 1)) p w [text] =
            { (w.place (s.saying text)).place (s.saying text).cancel.1 with events, hooks } := by
          rw [hheard, htaken]
          exact congrArg Prod.snd hcancel
        rw [List.take_succ_cons, List.take_zero, hend, place_place w hcancelled, String.join_cons, String.join_nil,
          String.append_empty]
    | n + 2 =>
      obtain ⟨events, hooks, hshown, hwaits⟩ :=
        (h.place (s.saying text)).run_announce_before (perform network (depth + 1)) { m with content := m.content ++ text }
      rw [hshown] at htaken
      obtain ⟨hrest, events', hooks', hafter⟩ := ih (w := { w.place (s.saying text) with events, hooks }) (s := s.saying text)
        n.succ_pos (Nat.le_of_succ_le_succ hle) hid hwaits hput ho hgoes (Session.last?_saying hm text)
      refine ⟨fun i hi => ?_, events', hooks', ?_⟩
      · cases i with
        | zero => exact hnow
        | succ i =>
          rw [List.take_succ_cons, hheard, htaken]
          exact hrest i (Nat.lt_of_succ_lt_succ hi)
      · have hcancelled : (s.saying text).id = (s.saying (text ++ String.join (rest.take (n + 1)))).cancel.1.id :=
          (Session.id_cancel (s.saying (text ++ String.join (rest.take (n + 1))))).symm
        rw [List.take_succ_cons, hheard, htaken, hafter, Session.saying_saying, String.join_cons]
        exact congrArg (fun v : HostState => { v with events := events', hooks := hooks' }) (place_place w hcancelled)

/-- The listener stops a response with the `n`th piece of text, and leaves its session with the first `n` pieces. -/
theorem CancelsAt.stoppedWith {p : Pending Backend} (network : HttpRequest → Reply) (depth : Nat) {n : Nat} {texts : List String}
    (hn : 0 < n) (hle : n ≤ texts.length) (hid : s.id = p.session) (h : CancelsAt w s.id n)
    (hs : w.service.directory.get? s.id = some s) (ho : s.owns p.generation = true) (hgoes : s.isStopped p.generation = false)
    {m : Message} (hm : s.last? = some m) :
    StoppedWith (perform network (depth + 1)) p w texts n ∧
      (heardOf (perform network (depth + 1)) p w (texts.take n)).service = (w.place { s with
        history := s.history.dropLast ++ [{ m with content := m.content ++ String.join (texts.take n) }]
        isActive := false
        stopped := s.stopped ++ [p.generation] }).service := by
  obtain ⟨hbefore, events, hooks, hafter⟩ := h.exists_heardOf network depth hn hle hid hs ho hgoes hm
  rw [Session.cancel_saying ho hm] at hafter
  generalize ht : { s with
    history := s.history.dropLast ++ [{ m with content := m.content ++ String.join (texts.take n) }]
    isActive := false
    stopped := s.stopped ++ [p.generation] } = t at hafter ⊢
  have hidt : t.id = p.session := ht ▸ hid
  have hget : (w.place t).service.directory.get? t.id = some t := get?_place (hidt ▸ hid ▸ hs)
  rw [hafter]
  refine ⟨⟨hbefore, ?_, ?_⟩, rfl⟩
  · rw [hafter]
    have hstopped : t.isStopped p.generation = true := by simp [← ht, Session.isStopped]
    exact (toldToStop_of_get? (w := w.place t) hidt hget).trans hstopped
  · rw [hafter]
    have hended : t.owns p.generation = false := by simp [← ht, Session.owns]
    rw [hidt] at hget
    exact (congrArg (·.owns p.generation) (Directory.session_of_get? hget)).trans hended

end Scenario

end Colloquy
