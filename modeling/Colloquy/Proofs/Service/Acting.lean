import Colloquy.Proofs.Service.Acts
import Colloquy.Proofs.Service.Observers
import Colloquy.Proofs.Service.Sent

/-!
# How a service acts

A host whose listeners leave the service alone does what an act says, with the choices that it makes itself (`Act.IsLike`): its
sessions are then those of the act, what it announces is what comes of the moves of the act, and it gives the response that is
started by them (`Service.exists_becomes_act`). What holds of one act holds of any number of them.
-/

namespace Colloquy

variable {π W τ : Type}

/-- Whether an act sends the draft. -/
def Act.isSend : Act π → Bool
  | .sends _ _ _ _ _ => true
  | _ => false

/-- The acts that are carried out: nothing is sent where there is no assistant. -/
def Act.carriedOut (roster : Roster π) (acts : List (Act π)) : List (Act π) :=
  acts.filter fun a => !(a.isSend && roster.entries.isEmpty)

theorem Act.carriedOut_of_ne_nil {roster : Roster π} (hn : roster.entries ≠ []) (acts : List (Act π)) :
    Act.carriedOut roster acts = acts := by
  have hsome : roster.entries.isEmpty = false := List.isEmpty_eq_false_iff.mpr hn
  simp [carriedOut, hsome]

namespace Service

section

variable {m : Type → Type} [Monad m] (host : Host π m)

/-- Does an act, and gives the response that it starts, if it starts one. What the act says was chosen is chosen anew. -/
def act : Act π → m (Option (Pending π))
  | .opens _ => do
    let _ ← newSession host
    return none
  | .selects target => do
    let _ ← selectSession host target
    return none
  | .writes text => do
    setPrompt host text
    return none
  | .sends _ _ _ _ _ => do
    let sent ← send host
    return sent.toOption
  | .cancels => do
    cancel host
    return none
  | .moves key other => moveOf host key other

/-- Does some acts, one after the other, and gives the responses that they start. -/
def actAll : List (Act π) → m (List (Pending π))
  | [] => return []
  | a :: rest => do
    let started ← act host a
    let more ← actAll rest
    return started.toList ++ more

end

/-- The notices of sessions that are noted, each with the key of its session. -/
def noticesByKey (notes : List (Note π)) : List (SessionKey × Notice) :=
  notes.filterMap fun
    | .announced (.session key n) _ => some (key, n)
    | _ => none

theorem noticesByKey_append (notes more : List (Note π)) :
    noticesByKey (notes ++ more) = noticesByKey notes ++ noticesByKey more :=
  List.filterMap_append

theorem noticesByKey_announced (key : SessionKey) (notices : List Notice) (service : Service π) :
    noticesByKey (notices.map fun n => .announced (.session key n) service) = notices.map (Prod.mk key) := by
  simp [noticesByKey, List.filterMap_map]

/-- The notices of the session of a key that are noted. -/
def noticesFor (key : SessionKey) (notes : List (Note π)) : List Notice :=
  ((noticesByKey notes).filter fun e => e.1 = key).map Prod.snd

/-- What is told of the moves of a session is what these moves tell. -/
theorem noticesFor_turns (key : SessionKey) (turns : List (SessionKey × Turn π)) :
    ((turns.flatMap fun t => t.2.notices.map (Prod.mk t.1)).filter fun e => e.1 = key).map Prod.snd =
      ((turns.filter fun t => t.1 = key).map Prod.snd).flatMap Turn.notices := by
  induction turns with
  | nil => rfl
  | cons t rest ih =>
    have hnotices : ((t.2.notices.map (Prod.mk t.1)).filter fun e => e.1 = key).map Prod.snd =
        if t.1 = key then t.2.notices else [] := by
      by_cases hk : t.1 = key <;> simp [List.filter_map, Function.comp_def, hk]
    rw [List.flatMap_cons, List.filter_append, List.map_append, ih, hnotices]
    by_cases hk : t.1 = key <;> simp [hk]

end Service

namespace Outlook

/-- From what is seen before to what is seen afterwards, the sessions became those of a directory, and what came of the moves that
were made, one by one, was announced; the responses that they started were given. -/
structure Becomes (note : τ → Note π → τ) (before after : Outlook π τ) (d : Directory) (turns : List (SessionKey × Turn π))
    (started : List (Pending π)) : Prop where
  directory : after.service.directory = d
  entries : after.service.roster.entries = before.service.roster.entries
  isQuiet : after.isQuiet = before.isQuiet
  told : ∃ notes, after.told = notes.foldl note before.told ∧
    Service.noticesByKey notes = turns.flatMap fun t => t.2.notices.map (Prod.mk t.1)
  started : started = turns.filterMap fun t => t.2.started

namespace Becomes

variable {note : τ → Note π → τ} {o p q : Outlook π τ} {d e : Directory} {turns more : List (SessionKey × Turn π)}
  {started later : List (Pending π)}

theorem refl (o : Outlook π τ) : o.Becomes note o o.service.directory [] [] :=
  ⟨rfl, rfl, rfl, ⟨[], rfl, rfl⟩, rfl⟩

theorem trans (h : o.Becomes note p d turns started) (h' : p.Becomes note q e more later) :
    o.Becomes note q e (turns ++ more) (started ++ later) := by
  obtain ⟨notes, htold, hnotices⟩ := h.told
  obtain ⟨notes', htold', hnotices'⟩ := h'.told
  refine ⟨h'.directory, h'.entries.trans h.entries, h'.isQuiet.trans h.isQuiet, ⟨notes ++ notes', ?_, ?_⟩, ?_⟩
  · rw [htold', htold, List.foldl_append]
  · rw [Service.noticesByKey_append, hnotices, hnotices', List.flatMap_append]
  · rw [h.started, h'.started, List.filterMap_append]

/-- What is noted beside the notices of sessions does not matter. -/
theorem of_noting {notes : List (Note π)} (hp : p = o.noting note d notes)
    (hnotices : Service.noticesByKey notes = turns.flatMap fun t => t.2.notices.map (Prod.mk t.1))
    (hstarted : started = turns.filterMap fun t => t.2.started) : o.Becomes note p d turns started := by
  subst hp
  exact ⟨rfl, rfl, rfl, ⟨notes, rfl, hnotices⟩, hstarted⟩

/-- Moves that tell and start nothing are not noticed. -/
theorem of_silent {silent : List (SessionKey × Turn π)} (hsilent : ∀ t ∈ silent, t.2.notices = [] ∧ t.2.started = none)
    (h : o.Becomes note p d turns started) : o.Becomes note p d (silent ++ turns) started := by
  obtain ⟨notes, htold, hnotices⟩ := h.told
  have hnone : silent.flatMap (fun t => t.2.notices.map (Prod.mk t.1)) = [] :=
    List.flatMap_eq_nil_iff.mpr fun t ht => by rw [(hsilent t ht).1, List.map_nil]
  have hnobody : silent.filterMap (fun t => t.2.started) = [] :=
    List.filterMap_eq_nil_iff.mpr fun t ht => (hsilent t ht).2
  refine ⟨h.directory, h.entries, h.isQuiet, ⟨notes, htold, ?_⟩, ?_⟩
  · rw [List.flatMap_append, hnone, hnotices, List.nil_append]
  · rw [List.filterMap_append, hnobody, h.started, List.nil_append]

end Becomes

end Outlook

/-- The moves that give a new session the draft of the null session. -/
def takesOver (id : Uuid) (draft : String) : List (SessionKey × Move π) :=
  [(.null, .takePrompt), (.listed id, .setPrompt draft)]

namespace Directory

variable {d : Directory} {id : Uuid}

/-- The session that a send makes is open once it has taken over the draft. -/
theorem play_takesOver (hc : d.current = none) (hfresh : d.get? id = none) (provider : π) (context : Option Json)
    (user assistant : Stamp) :
    (d.arranged (.sends id provider context user assistant)).play (takesOver (π := π) id d.null.prompt) = d.opened id := by
  have harranged : d.arranged (.sends id provider context user assistant) = ⟨d.null, d.sessions ++ [.new id], some id⟩ := by
    simp [arranged, Focus.makes?, Focus.selects, focus, hc]
  rw [harranged]
  have htaken : Directory.change ⟨d.null.setPrompt "", d.sessions ++ [.new id], some id⟩ (.listed id) (·.setPrompt d.null.prompt) =
      d.opened id := change_concat hfresh rfl _
  exact htaken

theorem turnsOf_takesOver (d : Directory) (id : Uuid) (draft : String) :
    ∀ t ∈ d.turnsOf (takesOver (π := π) id draft), t.2.notices = [] ∧ t.2.started = none := by
  intro t ht
  simp only [takesOver, turnsOf, List.append_nil, List.mem_append, List.mem_map] at ht
  rcases ht with ⟨s, -, rfl⟩ | ⟨s, -, rfl⟩ <;> exact ⟨rfl, rfl⟩

end Directory

namespace Service

open Outlook

section Operations

variable {host : Host π (StateM W)} {view : W → Outlook π τ} {note : τ → Note π → τ} (h : host.IsHeard view note) {w : W}

include h

/-- A move that is asked for is made, in a directory as it should be. -/
theorem exists_becomes_moveOf (hq : (view w).isQuiet) {d : Directory} (hd : (view w).service.directory = d) (hs : d.IsSound)
    (key : SessionKey) (m : Move π) :
    ∃ m', m.IsLike m' ∧ (view w).Becomes note (view ((moveOf host key m).run w).2) (d.moved key m') (d.turnsOf [(key, m')])
      ((moveOf host key m).run w).1.toList := by
  subst hd
  obtain ⟨m', hlike, hmoves⟩ := exists_moves h hq hs.null.isNull key m
  refine ⟨m', hlike, ?_⟩
  rcases hmoves with ⟨s, hsession, hdoes⟩ | ⟨hdoes, hrest⟩
  · have hmoved : (view w).service.directory.moved key m' = (view w).service.directory.put key (s.take m').session :=
      Directory.change_of_some hsession _
    have hturns : (view w).service.directory.turnsOf [(key, m')] = [(key, s.take m')] := by
      rw [Directory.turnsOf, hsession]
      rfl
    rw [hmoved, hturns]
    refine .of_noting hdoes.2 ?_ ?_
    · rw [noticesByKey_announced, List.flatMap_singleton]
    · rw [hdoes.1]
      cases hstarted : (s.take m').started <;> simp [hstarted]
  · cases hsession : (view w).service.directory.session? key with
    | none =>
      have hmoved : (view w).service.directory.moved key m' = (view w).service.directory :=
        Directory.change_of_none hsession _
      have hturns : (view w).service.directory.turnsOf [(key, m')] = [] := by
        rw [Directory.turnsOf, hsession]
        rfl
      rw [hmoved, hturns]
      exact .of_noting hdoes.2 rfl (by rw [hdoes.1]; rfl)
    | some s =>
      have htake := hrest s hsession
      have hmoved : (view w).service.directory.moved key m' = (view w).service.directory := by
        refine (Directory.change_of_some hsession _).trans ?_
        rw [htake]
        exact hs.put_of_session? hsession
      have hturns : (view w).service.directory.turnsOf [(key, m')] = [(key, { session := s })] := by
        rw [Directory.turnsOf, hsession, Option.toList_some, List.map_singleton, htake]
        rfl
      rw [hmoved, hturns]
      exact .of_noting hdoes.2 rfl (by rw [hdoes.1]; rfl)

/-- To write the draft of the current session is a move of it. -/
theorem run_act_writes (text : String) :
    (act host (.writes text)).run w = (moveOf host (view w).service.directory.currentKey (.setPrompt text)).run w := by
  have hwrites : (setPrompt host text).run w = (operate host (view w).service.directory.currentKey fun s =>
      ((s.take (.setPrompt text : Move π)).session, (s.take (.setPrompt text : Move π)).notices)).run w := by
    have hcurrent := (view w).service.directory.session?_currentKey
    rw [setPrompt, operate, run_state_bind h.isSeen, run_state_bind h.isSeen]
    dsimp only
    rw [hcurrent, Directory.change_of_some hcurrent]
    rfl
  rw [act, StateT.run_bind, hwrites]
  rfl

/-- To cancel is a move of the current session. -/
theorem run_act_cancels :
    (act host (.cancels)).run w = (moveOf host (view w).service.directory.currentKey .cancel).run w := by
  have hcancels : (cancel host).run w = (cancelSession host (view w).service.directory.currentKey).run w := by
    rw [cancel, run_state_bind h.isSeen]
  rw [act, StateT.run_bind, hcancels]
  rfl

/-- To send the draft is a start in the session that there is then, once a context was asked for. -/
theorem exists_run_act_sends (hn : (view w).service.roster.entries ≠ []) {key : SessionKey} {d : Directory}
    {notes : List (Note π)} (he : Does view note ((selected host).run w).2 (ensureSession host) (.ok key) d notes) (id : Uuid)
    (provider : π) (context : Option Json) (user assistant : Stamp) :
    ∃ provider' context' v, (act host (.sends id provider context user assistant)).run w =
        (moveOf host key (.start (some provider') context' user assistant)).run v ∧
      view v = (view w).healed.noting note d (notes ++ [.asked context']) := by
  obtain ⟨hkey, hview⟩ := he
  generalize hensured : (ensureSession host).run ((selected host).run w).2 = ensured at hkey hview
  obtain ⟨provider', hrun⟩ := run_send_of_somebody h.isSeen hn (hensured.trans (Prod.ext hkey rfl))
  refine ⟨provider', (host.context.run ensured.2).1, (host.context.run ensured.2).2, ?_, ?_⟩
  · rw [act, StateT.run_bind, hrun]
    rfl
  · rw [h.context, hview, view_selected_of_isHeard h, noting, noting, List.foldl_append]
    rfl

/-- A session is made where it was to be made. -/
theorem becomes_opens (hq : (view w).isQuiet) {d : Directory} (hd : (view w).service.directory = d) {id : Uuid}
    (hid : (host.newId.run w).1 = id) (id' : Uuid) :
    (view w).Becomes note (view ((act host (.opens id')).run w).2) (d.acted (.opens id : Act π)) (d.turnsOfAct (.opens id))
      ((act host (.opens id')).run w).1.toList := by
  subst hd
  have hdoes : Does view note w (act host (.opens id')) none ((view w).service.directory.add id) _ :=
    (does_newSession h hq hid).bind fun v _ hv => does_pure none (by rw [hv]; rfl)
  exact .of_noting hdoes.2 rfl (by rw [hdoes.1]; rfl)

/-- A session that is there is selected; otherwise nothing is done. -/
theorem becomes_selects (hq : (view w).isQuiet) {d : Directory} (hd : (view w).service.directory = d) (target : Option Uuid) :
    (view w).Becomes note (view ((act host (.selects target)).run w).2) (d.acted (.selects target : Act π))
      (d.turnsOfAct (.selects target)) ((act host (.selects target)).run w).1.toList := by
  subst hd
  have hacted : (view w).service.directory.acted (.selects target : Act π) = { (view w).service.directory with
      current := (view w).service.directory.focus.selects (.selects target : Act π) } := by
    simp [Directory.acted, Directory.arranged, Focus.makes?, Focus.movesOf, Directory.play]
  rw [hacted, Focus.selects]
  rcases (view w).service.directory.exists_select target with ⟨hlisted, hselect⟩ | ⟨hlisted, e, hselect⟩
  · have hdoes : Does view note w (act host (.selects target)) none _ _ :=
      (does_selectSession h hq target hselect).bind fun v _ hv => does_pure none (by rw [hv, noting_directory])
    rw [hlisted, if_pos rfl]
    exact .of_noting hdoes.2 rfl (by rw [hdoes.1]; rfl)
  · have hnothing : Does view note w (selectSession host target) (.error e) (view w).service.directory [] := by
      refine does_state_bind h ?_
      rw [hselect]
      exact does_pure _ rfl
    have hdoes : Does view note w (act host (.selects target)) none _ _ :=
      hnothing.bind fun v _ hv => does_pure none (by rw [hv, noting_directory])
    rw [hlisted, if_neg Bool.false_ne_true]
    exact .of_noting hdoes.2 rfl (by rw [hdoes.1]; rfl)

/-- What is asked of the current session is a move of it. -/
theorem becomes_current (hq : (view w).isQuiet) {d : Directory} (hd : (view w).service.directory = d) (hs : d.IsSound) {a : Act π}
    {m : Move π} (hm : m.isStart = false) (hrun : (act host a).run w = (moveOf host d.currentKey m).run w)
    (hmoves : d.focus.movesOf a = [(d.focus.key, m)]) (harranged : d.arranged a = d) :
    (view w).Becomes note (view ((act host a).run w).2) (d.acted a) (d.turnsOfAct a) ((act host a).run w).1.toList := by
  obtain ⟨m', ⟨user, assistant, rfl⟩, hbecomes⟩ := exists_becomes_moveOf h hq hd hs d.currentKey m
  have hsame : m.stamped user assistant = m := by
    cases m with
    | start provider context user assistant => cases hm
    | _ => rfl
  rw [hrun, Directory.acted, Directory.turnsOfAct, hmoves, harranged, ← hs.currentKey]
  rw [hsame] at hbecomes
  exact hbecomes

/-- A send starts in the session that there is then, whatever was done before to have one. -/
theorem exists_becomes_start (hq : (view w).isQuiet) (hn : (view w).service.roster.entries ≠ []) {key : SessionKey} {d : Directory}
    (hs : d.IsSound) {notes : List (Note π)}
    (he : Does view note ((selected host).run w).2 (ensureSession host) (.ok key) d notes) (hnotes : noticesByKey notes = [])
    (id : Uuid) (provider : π) (context : Option Json) (user assistant : Stamp) :
    ∃ provider' context' user' assistant', (view w).Becomes note
      (view ((act host (.sends id provider context user assistant)).run w).2)
      (d.moved key (.start (some provider') context' user' assistant'))
      (d.turnsOf [(key, .start (some provider') context' user' assistant')])
      ((act host (.sends id provider context user assistant)).run w).1.toList := by
  obtain ⟨provider', context', v, hrun, hv⟩ := exists_run_act_sends h hn he id provider context user assistant
  have hready : (view w).Becomes note (view v) d [] [] := by
    rw [hv]
    refine ⟨rfl, rfl, rfl, ⟨notes ++ [.asked context'], rfl, ?_⟩, rfl⟩
    rw [noticesByKey_append, hnotes]
    rfl
  obtain ⟨m', ⟨user', assistant', rfl⟩, hbecomes⟩ := exists_becomes_moveOf h (hready.isQuiet ▸ hq) hready.directory hs key
    (.start (some provider') context' user assistant)
  refine ⟨provider', context', user', assistant', ?_⟩
  rw [hrun]
  exact hready.trans hbecomes

/-- A send starts in the current session. -/
theorem exists_becomes_sends_kept (hq : (view w).isQuiet) {d : Directory} (hd : (view w).service.directory = d) (hs : d.IsSound)
    (hn : (view w).service.roster.entries ≠ []) {current : Uuid} (hc : d.current = some current) (id id' : Uuid) (provider : π)
    (context : Option Json) (user assistant : Stamp) :
    ∃ provider' context' user' assistant',
      (view w).Becomes note (view ((act host (.sends id' provider context user assistant)).run w).2)
        (d.acted (.sends id provider' context' user' assistant')) (d.turnsOfAct (.sends id provider' context' user' assistant'))
        ((act host (.sends id' provider context user assistant)).run w).1.toList := by
  have hview := view_selected_of_isHeard h w
  have hkey : d.currentKey = .listed current := by rw [hs.currentKey, Focus.key, Directory.focus, hc]; rfl
  have hkept := run_ensureSession_of_current h.isSeen (w := ((selected host).run w).2) (by rw [hview]; exact hd ▸ hkey)
  have hensure : Does view note ((selected host).run w).2 (ensureSession host) (.ok (.listed current)) d [] := by
    rw [Does, hkept, hview]
    exact ⟨rfl, hd ▸ rfl⟩
  obtain ⟨provider', context', user', assistant', hbecomes⟩ :=
    exists_becomes_start h hq hn hs hensure rfl id' provider context user assistant
  refine ⟨provider', context', user', assistant', ?_⟩
  have hmoves : d.focus.movesOf (.sends id provider' context' user' assistant') =
      [(.listed current, .start (some provider') context' user' assistant')] := by
    rw [Focus.movesOf, Directory.focus, hc]
  rw [Directory.acted, Directory.turnsOfAct, hmoves,
    Directory.arranged_eq (by simp [Focus.makes?, Directory.focus, hc]) (by simp [Focus.selects, Directory.focus, hc])]
  exact hbecomes

/-- Where no session is current a send starts in one that was made for it and took over the draft. -/
theorem exists_becomes_sends_opened (hq : (view w).isQuiet) {d : Directory} (hd : (view w).service.directory = d) (hs : d.IsSound)
    (hn : (view w).service.roster.entries ≠ []) (hc : d.current = none) {id : Uuid} (hid : (host.newId.run w).1 = id)
    (hfresh : id ∉ d.focus.listed) (id' : Uuid) (provider : π) (context : Option Json) (user assistant : Stamp) :
    ∃ provider' context' user' assistant',
      (view w).Becomes note (view ((act host (.sends id' provider context user assistant)).run w).2)
        (d.acted (.sends id provider' context' user' assistant')) (d.turnsOfAct (.sends id provider' context' user' assistant'))
        ((act host (.sends id' provider context user assistant)).run w).1.toList := by
  have hview := view_selected_of_isHeard h w
  have hdraws : (host.newId.run ((selected host).run w).2).1 = id := by
    rw [run_selected h.isSeen, h.newId_setState, hid]
  have hkey : d.currentKey = .null := by rw [hs.currentKey, Focus.key, Directory.focus, hc]; rfl
  have hnone : d.get? id = none := d.get?_eq_none_iff.mpr hfresh
  have hensure := does_ensureSession h (w := ((selected host).run w).2) (by rw [hview]; exact hq) (by rw [hview]; exact hd)
    hkey hdraws hnone
  have hopened := Directory.play_takesOver hc hnone provider
  have hsound : (d.opened id).IsSound := by
    rw [← hopened context user assistant]
    refine (hs.arranged _ fun made hmade => ?_).play _
    obtain rfl : id = made := by simpa [Focus.makes?, Directory.focus, hc] using hmade
    exact hfresh
  obtain ⟨provider', context', user', assistant', hbecomes⟩ :=
    exists_becomes_start h hq hn hsound hensure rfl id' provider context user assistant
  refine ⟨provider', context', user', assistant', ?_⟩
  have hmoves : d.focus.movesOf (.sends id provider' context' user' assistant') =
      takesOver id d.null.prompt ++ [(.listed id, .start (some provider') context' user' assistant')] := by
    rw [Focus.movesOf, Directory.focus, hc]
    rfl
  have hopened := Directory.play_takesOver hc hnone provider' context' user' assistant'
  rw [Directory.acted, Directory.turnsOfAct, hmoves, Directory.play_append, Directory.turnsOf_append, hopened]
  exact hbecomes.of_silent (Directory.turnsOf_takesOver _ id _)

/-- Without an assistant nothing is sent. -/
theorem becomes_unsent (hn : (view w).service.roster.entries = []) (id : Uuid) (provider : π) (context : Option Json)
    (user assistant : Stamp) :
    (view w).Becomes note (view ((act host (.sends id provider context user assistant)).run w).2) (view w).service.directory []
      ((act host (.sends id provider context user assistant)).run w).1.toList := by
  have hrun : (act host (.sends id provider context user assistant)).run w = (none, ((selected host).run w).2) := by
    rw [act, StateT.run_bind, run_send_of_nobody h.isSeen hn]
    rfl
  rw [hrun, view_selected_of_isHeard h]
  exact ⟨rfl, rfl, rfl, ⟨[], rfl, rfl⟩, rfl⟩

/-- An act that is asked for is done, with the choices of the service and its host. -/
theorem exists_becomes_act (hq : (view w).isQuiet) {d : Directory} (hd : (view w).service.directory = d) (hs : d.IsSound)
    (a : Act π) (hn : a.isSend = true → (view w).service.roster.entries ≠ [])
    (hfresh : (d.focus.makes? a).isSome = true → (host.newId.run w).1 ∉ d.focus.listed) :
    ∃ a', a.IsLike a' ∧ (∀ id ∈ d.focus.makes? a', id ∉ d.focus.listed) ∧
      (view w).Becomes note (view ((act host a).run w).2) (d.acted a') (d.turnsOfAct a') ((act host a).run w).1.toList := by
  have hnothing {a : Act π} (hm : d.focus.makes? a = none) : ∀ id ∈ d.focus.makes? a, id ∉ d.focus.listed := by simp [hm]
  cases a with
  | opens id =>
    refine ⟨.opens (host.newId.run w).1, .opens _ _, fun made hmade => ?_, becomes_opens h hq hd rfl id⟩
    obtain rfl := Option.some.inj hmade
    exact hfresh rfl
  | selects target => exact ⟨_, .selects target, hnothing rfl, becomes_selects h hq hd target⟩
  | writes text =>
    exact ⟨_, .writes text, hnothing rfl,
      becomes_current h hq hd hs rfl (hd ▸ run_act_writes h text) rfl (Directory.arranged_eq rfl rfl)⟩
  | sends id provider context user assistant =>
    cases hc : d.current with
    | some current =>
      obtain ⟨provider', context', user', assistant', hbecomes⟩ :=
        exists_becomes_sends_kept h hq hd hs (hn rfl) hc (host.newId.run w).1 id provider context user assistant
      exact ⟨_, .sends _ _ _ _ _ _ _ _ _ _, hnothing (by simp [Focus.makes?, Directory.focus, hc]), hbecomes⟩
    | none =>
      have hmakes (provider : π) (context : Option Json) (user assistant : Stamp) :
          d.focus.makes? (.sends (host.newId.run w).1 provider context user assistant) = some (host.newId.run w).1 := by
        simp [Focus.makes?, Directory.focus, hc]
      have hdraws : (host.newId.run w).1 ∉ d.focus.listed := hfresh (by simp [Focus.makes?, Directory.focus, hc])
      obtain ⟨provider', context', user', assistant', hbecomes⟩ :=
        exists_becomes_sends_opened h hq hd hs (hn rfl) hc rfl hdraws id provider context user assistant
      refine ⟨_, .sends _ _ _ _ _ _ _ _ _ _, fun made hmade => ?_, hbecomes⟩
      rw [hmakes] at hmade
      exact Option.some.inj hmade ▸ hdraws
  | cancels =>
    exact ⟨_, .cancels, hnothing rfl,
      becomes_current h hq hd hs rfl (hd ▸ run_act_cancels h) rfl (Directory.arranged_eq rfl rfl)⟩
  | moves key m =>
    obtain ⟨m', hlike, hbecomes⟩ := exists_becomes_moveOf h hq hd hs key m
    refine ⟨_, .moves key hlike, hnothing rfl, ?_⟩
    rw [Directory.acted, Directory.turnsOfAct, Directory.arranged_eq rfl rfl, Focus.movesOf]
    split
    next => exact hbecomes
    next hk =>
      -- there is no session under the key, so that nothing is done
      have hnone : d.session? key = none := by
        rw [← Option.not_isSome_iff_eq_none, d.isSome_session?_iff]
        exact hk
      have hmoved : d.moved key m' = d := Directory.change_of_none hnone _
      have hturns : d.turnsOf [(key, m')] = [] := by
        rw [Directory.turnsOf, hnone]
        rfl
      rw [hmoved, hturns] at hbecomes
      exact hbecomes

omit h in
/-- Whenever a session is made in the course of some acts, the identifier that is drawn for it is not in use. -/
def DrawsAnew (host : Host π (StateM W)) (view : W → Outlook π τ) : List (Act π) → W → Prop
  | [], _ => True
  | a :: rest, w =>
    (((view w).service.directory.focus.makes? a).isSome = true →
        (host.newId.run w).1 ∉ (view w).service.directory.focus.listed) ∧
      DrawsAnew host view rest ((act host a).run w).2

/-- The same of any number of acts; without an assistant it is as if nothing had been asked to be sent. -/
theorem exists_becomes_actAll (hq : (view w).isQuiet) {d : Directory} (hd : (view w).service.directory = d) (hs : d.IsSound)
    (acts : List (Act π)) (hfresh : DrawsAnew host view acts w) :
    ∃ acts', (Act.carriedOut (view w).service.roster acts).Forall₂ Act.IsLike acts' ∧ d.focus.MakesAnew acts' ∧
      (view w).Becomes note (view ((actAll host acts).run w).2) (d.actedAll acts') (d.turnsOfActs acts')
        ((actAll host acts).run w).1 := by
  subst hd
  induction acts generalizing w with
  | nil => exact ⟨[], .nil, trivial, .refl _⟩
  | cons a rest ih =>
    obtain ⟨hmakes, hrest⟩ := hfresh
    cases hskip : a.isSend && (view w).service.roster.entries.isEmpty with
    | false =>
      have hn : a.isSend = true → (view w).service.roster.entries ≠ [] := fun hsend hnil => by simp [hsend, hnil] at hskip
      obtain ⟨a', hlike, hnew, hfirst⟩ := exists_becomes_act h hq rfl hs a hn hmakes
      have hsound := hs.acted a' hnew
      rw [← hfirst.directory] at hsound
      obtain ⟨rest', hlikes, hnews, hlater⟩ := ih (hfirst.isQuiet ▸ hq) hrest hsound
      rw [hfirst.directory] at hnews hlater
      rw [hs.focus_acted] at hnews
      rw [Act.carriedOut, hfirst.entries] at hlikes
      rw [Act.carriedOut, List.filter_cons_of_pos (by rw [hskip]; rfl)]
      exact ⟨a' :: rest', .cons hlike hlikes, ⟨hnew, hnews⟩, hfirst.trans hlater⟩
    | true =>
      obtain ⟨hsend, hnobody⟩ := Bool.and_eq_true_iff.mp hskip
      cases a with
      | sends id provider context user assistant =>
        have hfirst := becomes_unsent h (List.isEmpty_iff.mp hnobody) id provider context user assistant
        obtain ⟨rest', hlikes, hnews, hlater⟩ := ih (hfirst.isQuiet ▸ hq) hrest (hfirst.directory ▸ hs)
        rw [hfirst.directory] at hnews hlater
        rw [Act.carriedOut, hfirst.entries] at hlikes
        rw [Act.carriedOut, List.filter_cons_of_neg (by rw [hskip]; exact Bool.false_ne_true)]
        exact ⟨rest', hlikes, hnews, hfirst.trans hlater⟩
      | _ => cases hsend

end Operations

end Service

end Colloquy
