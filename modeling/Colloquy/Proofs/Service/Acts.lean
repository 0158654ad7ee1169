import Colloquy.Proofs.Service.Docket
import Colloquy.Proofs.Session.Alike

/-!
# What is done to sessions, one by one and together

Moves of several sessions, in whatever order, do to each session what its own moves do to it alone (`Directory.session?_play`,
`Directory.turnsOf_filter`). What is done to a service is more than moves: sessions are made and selected, and some of what is done
concerns the session that is selected at that time (`Act`). Which session that is can be told from the acts alone; so can the draft
that a send takes over to a session it has to make first (`Focus`).
-/

namespace Colloquy

variable {π : Type}

/-! ## Moves of several sessions -/

/-- The moves of the session of a key among those of all. -/
def movesFor (key : SessionKey) (moves : List (SessionKey × Move π)) : List (Move π) :=
  (moves.filter fun e => e.1 = key).map Prod.snd

theorem movesFor_cons (key : SessionKey) (e : SessionKey × Move π) (rest : List (SessionKey × Move π)) :
    movesFor key (e :: rest) = (if e.1 = key then [e.2] else []) ++ movesFor key rest := by
  by_cases h : e.1 = key <;> simp [movesFor, h]

namespace Directory

/-- The directory after some moves, each of the session of a key. -/
def play (d : Directory) (moves : List (SessionKey × Move π)) : Directory :=
  moves.foldl (fun d e => d.moved e.1 e.2) d

/-- What comes of some moves, one by one, each of the session of a key. -/
def turnsOf (d : Directory) : List (SessionKey × Move π) → List (SessionKey × Turn π)
  | [] => []
  | (key, m) :: rest => ((d.session? key).toList.map fun s => (key, s.take m)) ++ turnsOf (d.moved key m) rest

theorem session?_moved (d : Directory) (key : SessionKey) (m : Move π) (k : SessionKey) :
    (d.moved key m).session? k = if key = k then (d.session? k).map fun s => (s.take m).session else d.session? k := by
  cases k with
  | listed id => exact Docket.get?_moved d key m id
  | null =>
    cases key with
    | null => rfl
    | listed id =>
      rw [if_neg nofun]
      exact congrArg some (d.null_change id _)

/-- Moves of several sessions do to each of them what its own moves do. -/
theorem session?_play (d : Directory) (moves : List (SessionKey × Move π)) (key : SessionKey) :
    (d.play moves).session? key = (d.session? key).map (·.run (movesFor key moves)) := by
  induction moves generalizing d with
  | nil => exact Option.map_id'.symm
  | cons e rest ih =>
    have hplay : d.play (e :: rest) = (d.moved e.1 e.2).play rest := rfl
    rw [hplay, ih, session?_moved, movesFor_cons]
    by_cases h : e.1 = key
    · rw [if_pos h, if_pos h, Option.map_map]
      rfl
    · rw [if_neg h, if_neg h, List.nil_append]

/-- What comes of the moves of a session is what comes of them alone. -/
theorem turnsOf_filter (d : Directory) (moves : List (SessionKey × Move π)) (key : SessionKey) :
    ((d.turnsOf moves).filter fun t => t.1 = key).map Prod.snd =
      (d.session? key).toList.flatMap (·.turns (movesFor key moves)) := by
  induction moves generalizing d with
  | nil => cases d.session? key <;> rfl
  | cons e rest ih =>
    obtain ⟨k, m⟩ := e
    rw [turnsOf, List.filter_append, List.map_append, ih, session?_moved, movesFor_cons]
    by_cases h : k = key
    · subst h
      cases d.session? k <;> simp [Session.turns]
    · cases d.session? k <;> simp [h]

theorem play_append (d : Directory) (moves more : List (SessionKey × Move π)) :
    d.play (moves ++ more) = (d.play moves).play more :=
  List.foldl_append

theorem turnsOf_append (d : Directory) (moves more : List (SessionKey × Move π)) :
    d.turnsOf (moves ++ more) = d.turnsOf moves ++ (d.play moves).turnsOf more := by
  induction moves generalizing d with
  | nil => rfl
  | cons e rest ih =>
    rw [List.cons_append, turnsOf, ih, turnsOf, List.append_assoc]
    rfl

end Directory

/-! ## Acts -/

/-- What is done to the sessions of a service. Where the service or its host has a choice, an act says what was chosen: the
identifier of a new session, who is to answer, the context that is sent along, and the stamps of messages. -/
inductive Act (π : Type) where
  /-- Makes a session. -/
  | opens (id : Uuid)
  /-- Selects a session, or none. -/
  | selects (target : Option Uuid)
  /-- Writes the draft of the current session. -/
  | writes (text : String)
  /-- Sends the draft of the current session; the identifier is for a session that has to be made first. -/
  | sends (id : Uuid) (provider : π) (context : Option Json) (user assistant : Stamp)
  /-- Cancels in the current session. -/
  | cancels
  /-- Makes a move of the session of a key. What a response does, and what ends it, are moves of the session it was started in. -/
  | moves (key : SessionKey) (m : Move π)

/-- Acts that differ in nothing but what a service and its host choose. -/
inductive Act.IsLike : Act π → Act π → Prop where
  | opens (id id' : Uuid) : IsLike (.opens id) (.opens id')
  | selects (target : Option Uuid) : IsLike (.selects target) (.selects target)
  | writes (text : String) : IsLike (.writes text) (.writes text)
  | sends (id id' : Uuid) (provider provider' : π) (context context' : Option Json) (user user' assistant assistant' : Stamp) :
    IsLike (.sends id provider context user assistant) (.sends id' provider' context' user' assistant')
  | cancels : IsLike .cancels .cancels
  | moves (key : SessionKey) {m m' : Move π} : m.IsLike m' → IsLike (.moves key m) (.moves key m')

/-- What can be told from acts alone: which sessions there are, which of them is selected, and the draft of the null session. -/
structure Focus where
  listed : List Uuid := []
  current : Option Uuid := none
  draft : String := ""
  deriving DecidableEq, Repr

/-- The session of a key when it is new. -/
def SessionKey.blank : SessionKey → Session
  | .null => .null
  | .listed id => .new id

namespace Focus

/-- The key of the selected session, or of the null session. -/
def key (f : Focus) : SessionKey :=
  f.current.elim .null .listed

/-- Whether there is a session under a key. -/
def holds (f : Focus) : SessionKey → Bool
  | .null => true
  | .listed id => f.listed.contains id

/-- The moves that an act is made of, each with the session that it concerns. A send for which a session has to be made writes the
draft that was taken from the null session, and then starts. -/
def movesOf (f : Focus) : Act π → List (SessionKey × Move π)
  | .opens _ => []
  | .selects _ => []
  | .writes text => [(f.key, .setPrompt text)]
  | .sends id provider context user assistant =>
    match f.current with
    | some current => [(.listed current, .start (some provider) context user assistant)]
    | none => [(.null, .takePrompt), (.listed id, .setPrompt f.draft),
        (.listed id, .start (some provider) context user assistant)]
  | .cancels => [(f.key, .cancel)]
  | .moves key m => if f.holds key then [(key, m)] else []

/-- The identifier under which an act makes a session, if it makes one. -/
def makes? (f : Focus) : Act π → Option Uuid
  | .opens id => some id
  | .sends id _ _ _ _ => if f.current = none then some id else none
  | _ => none

/-- The session that is selected after an act. A session that is not there is not selected. -/
def selects (f : Focus) : Act π → Option Uuid
  | .selects target => if target.all f.listed.contains then target else f.current
  | .sends id _ _ _ _ => f.current <|> some id
  | _ => f.current

/-- The draft of the null session after an act. It is written or taken by moves of the null session; while no session is selected it
is what the service writes, and what a send takes. -/
def drafts (f : Focus) : Act π → String
  | .writes text => if f.current = none then text else f.draft
  | .sends _ _ _ _ _ => if f.current = none then "" else f.draft
  | .moves .null m => m.redraft f.draft
  | _ => f.draft

/-- What can be told after an act. -/
def after (f : Focus) (a : Act π) : Focus :=
  ⟨f.listed ++ (f.makes? a).toList, f.selects a, f.drafts a⟩

/-- What can be told after some acts. -/
def afterAll (f : Focus) (acts : List (Act π)) : Focus :=
  acts.foldl after f

/-- The moves that concern the session of a key, of all that some acts are made of. -/
def concerning (key : SessionKey) (f : Focus) : List (Act π) → List (Move π)
  | [] => []
  | a :: rest => movesFor key (f.movesOf a) ++ concerning key (f.after a) rest

/-- No act makes a session under an identifier that is in use. -/
def MakesAnew (f : Focus) : List (Act π) → Prop
  | [] => True
  | a :: rest => (∀ id ∈ f.makes? a, id ∉ f.listed) ∧ (f.after a).MakesAnew rest

/-- No session is ever removed. -/
theorem holds_after {f : Focus} {key : SessionKey} (hk : f.holds key = true) (a : Act π) : (f.after a).holds key = true := by
  cases key with
  | null => rfl
  | listed id =>
    rw [holds, List.contains_iff_mem] at hk ⊢
    exact List.mem_append_left _ hk

/-- Whatever session an act concerns, it is there after the act. -/
theorem holds_of_mem_movesOf {f : Focus} (hf : ∀ id ∈ f.current, id ∈ f.listed) {a : Act π} {e : SessionKey × Move π}
    (he : e ∈ f.movesOf a) : (f.after a).holds e.1 = true := by
  have hkey : f.holds f.key = true := by
    rw [key]
    cases hc : f.current with
    | none => rfl
    | some id => exact List.contains_iff_mem.mpr (hf id hc)
  cases a with
  | opens id => exact absurd he List.not_mem_nil
  | selects target => exact absurd he List.not_mem_nil
  | writes text =>
    obtain rfl := List.mem_singleton.mp he
    exact holds_after hkey _
  | sends id provider context user assistant =>
    rw [movesOf] at he
    split at he
    next current hc =>
      obtain rfl := List.mem_singleton.mp he
      have hcurrent : f.holds (.listed current) = true := List.contains_iff_mem.mpr (hf current hc)
      exact holds_after hcurrent _
    next hc =>
      have hmade : ((f.after (.sends id provider context user assistant)).listed.contains id) = true := by
        simp [after, makes?, hc]
      rcases List.mem_cons.mp he with rfl | he
      · rfl
      · rcases List.mem_pair.mp he with rfl | rfl <;> exact hmade
  | cancels =>
    obtain rfl := List.mem_singleton.mp he
    exact holds_after hkey _
  | moves key m =>
    rw [movesOf] at he
    split at he
    next hk =>
      obtain rfl := List.mem_singleton.mp he
      exact holds_after hk _
    next => exact absurd he List.not_mem_nil

end Focus

namespace Directory

/-- What can be told of a directory. -/
def focus (d : Directory) : Focus :=
  ⟨d.sessions.map Session.id, d.current, d.null.prompt⟩

/-- The directory once an act has made its session, and selected what it selects. -/
def arranged (d : Directory) (a : Act π) : Directory where
  null := d.null
  sessions := d.sessions ++ (d.focus.makes? a).toList.map Session.new
  current := d.focus.selects a

/-- The directory after an act. -/
def acted (d : Directory) (a : Act π) : Directory :=
  (d.arranged a).play (d.focus.movesOf a)

/-- What comes of the moves of an act. -/
def turnsOfAct (d : Directory) (a : Act π) : List (SessionKey × Turn π) :=
  (d.arranged a).turnsOf (d.focus.movesOf a)

/-- The directory after some acts. -/
def actedAll (d : Directory) (acts : List (Act π)) : Directory :=
  acts.foldl acted d

/-- What comes of the moves of some acts. -/
def turnsOfActs (d : Directory) : List (Act π) → List (SessionKey × Turn π)
  | [] => []
  | a :: rest => d.turnsOfAct a ++ turnsOfActs (d.acted a) rest

/-- A directory as it should be: the null session is what it always is, no two sessions have the same identifier, none of them is the
null session, and only a session that is there is selected. -/
structure IsSound (d : Directory) : Prop where
  null : d.null.IsVacant
  distinct : (d.sessions.map Session.id).Nodup
  proper : ∀ s ∈ d.sessions, s.isNull = false
  current : ∀ id ∈ d.current, id ∈ d.sessions.map Session.id

theorem isSound_new : ({} : Directory).IsSound :=
  ⟨rfl, .nil, fun _ hs => absurd hs List.not_mem_nil, fun _ hid => absurd hid (Option.not_mem_none _)⟩

theorem isSome_get?_iff (d : Directory) (id : Uuid) : (d.get? id).isSome = true ↔ id ∈ d.sessions.map Session.id := by
  simp [get?, List.find?_isSome]

theorem get?_eq_none_iff (d : Directory) {id : Uuid} : d.get? id = none ↔ id ∉ d.focus.listed := by
  rw [← Option.not_isSome_iff_eq_none, isSome_get?_iff, focus]

/-- There is a session under a key just if this can be told. -/
theorem isSome_session?_iff (d : Directory) (key : SessionKey) : (d.session? key).isSome = d.focus.holds key := by
  cases key with
  | null => rfl
  | listed id =>
    rw [Focus.holds, focus, session?_listed, Bool.eq_iff_iff, isSome_get?_iff, List.contains_iff_mem]

theorem map_id_moved (d : Directory) (key : SessionKey) (m : Move π) :
    (d.moved key m).sessions.map Session.id = d.sessions.map Session.id ∧ (d.moved key m).current = d.current := by
  rw [moved, change]
  cases hs : d.session? key with
  | none => exact ⟨rfl, rfl⟩
  | some s =>
    cases key with
    | null => exact ⟨rfl, rfl⟩
    | listed id =>
      refine ⟨?_, rfl⟩
      have hid : (s.take m).session.id = id := (s.takes m).same.1.trans (id_of_get? hs)
      refine List.map_map.trans (List.map_congr_left fun x _ => ?_)
      rw [Function.comp_apply]
      split
      next hx => rw [hid, hx]
      next => rfl

theorem map_id_play (d : Directory) (moves : List (SessionKey × Move π)) :
    (d.play moves).sessions.map Session.id = d.sessions.map Session.id ∧ (d.play moves).current = d.current := by
  induction moves generalizing d with
  | nil => exact ⟨rfl, rfl⟩
  | cons e rest ih =>
    obtain ⟨hids, hcurrent⟩ := d.map_id_moved e.1 e.2
    exact ⟨(ih _).1.trans hids, (ih _).2.trans hcurrent⟩

theorem map_id_arranged (d : Directory) (a : Act π) :
    (d.arranged a).sessions.map Session.id = (d.focus.after a).listed := by
  rw [arranged, List.map_append, List.map_map, Focus.after]
  cases d.focus.makes? a <;> rfl

theorem null_play (d : Directory) (moves : List (SessionKey × Move π)) :
    (d.play moves).null = d.null.run (movesFor .null moves) :=
  Option.some.inj (d.session?_play moves .null)

end Directory

namespace Session.IsVacant

theorem run {s : Session} (h : s.IsVacant) (moves : List (Move π)) : (s.run moves).IsVacant := by
  induction moves generalizing s with
  | nil => exact h
  | cons m rest ih => exact ih (h.take m).1

end Session.IsVacant

/-- What an act does to the draft of the null session can be told. -/
theorem Session.IsVacant.prompt_run_movesOf {s : Session} (h : s.IsVacant) {f : Focus} (hs : s.prompt = f.draft) (a : Act π) :
    (s.run (movesFor .null (f.movesOf a))).prompt = f.drafts a := by
  have hone (m : Move π) : s.run [m] = (s.take m).session := rfl
  have hnone : s.run ([] : List (Move π)) = s := rfl
  have hprompt := h.prompt_take (π := π)
  cases a with
  | opens id => exact hs
  | selects target => exact hs
  | writes text =>
    cases hc : f.current <;>
      simp [Focus.movesOf, Focus.key, Focus.drafts, movesFor, hc, hone, hnone, hprompt, Move.redraft, hs]
  | sends id provider context user assistant =>
    cases hc : f.current <;> simp [Focus.movesOf, Focus.drafts, movesFor, hc, hone, hnone, hprompt, Move.redraft, hs]
  | cancels =>
    cases hc : f.current <;>
      simp [Focus.movesOf, Focus.key, Focus.drafts, movesFor, hc, hone, hnone, hprompt, Move.redraft, hs]
  | moves key m =>
    cases key with
    | null =>
      rw [Focus.movesOf, Focus.holds, if_pos rfl, movesFor_cons, if_pos rfl]
      exact (hprompt m).trans (congrArg m.redraft hs)
    | listed id =>
      have hother : movesFor .null (f.movesOf (.moves (.listed id) m)) = [] := by
        rw [Focus.movesOf]
        split <;> simp [movesFor]
      rw [hother]
      exact hs

namespace Directory.IsSound

variable {d : Directory} (h : d.IsSound)

include h

theorem isNull_of_get? {id : Uuid} {s : Session} (hs : d.get? id = some s) : s.isNull = false :=
  h.proper s (mem_of_get? hs)

/-- To put a session where it is changes nothing. -/
theorem put_of_session? {key : SessionKey} {s : Session} (hs : d.session? key = some s) : d.put key s = d := by
  cases key with
  | null =>
    obtain rfl := Option.some.inj hs
    rfl
  | listed id => exact put_of_get? h.distinct hs

/-- The current key is that of the selected session. -/
theorem currentKey : d.currentKey = d.focus.key := by
  rw [Directory.currentKey, Focus.key, focus]
  cases hc : d.current with
  | none => rfl
  | some id => exact if_pos ((d.isSome_get?_iff id).mpr (h.current id hc))

theorem moved (key : SessionKey) (m : Move π) : (d.moved key m).IsSound := by
  obtain ⟨hids, hcurrent⟩ := d.map_id_moved key m
  refine ⟨Docket.isVacant_moved h.null key m, hids ▸ h.distinct, fun s hs => ?_, fun id hid => ?_⟩
  · rcases mem_sessions_change hs with ⟨hs, -⟩ | ⟨t, -, ht, rfl⟩
    · exact h.proper s hs
    · exact (t.takes m).same.2.trans (h.isNull_of_get? ht)
  · rw [hids]
    exact h.current id (hcurrent ▸ hid)

theorem play (moves : List (SessionKey × Move π)) : (d.play moves).IsSound := by
  induction moves generalizing d with
  | nil => exact h
  | cons e rest ih => exact ih (h.moved e.1 e.2)

/-- Only a session that is there is selected by an act. -/
theorem mem_of_selects (a : Act π) : ∀ id ∈ d.focus.selects a, id ∈ (d.focus.after a).listed := by
  intro id hid
  have hcurrent (hid : id ∈ d.current) : id ∈ (d.focus.after a).listed := List.mem_append_left _ (h.current id hid)
  cases a with
  | selects target =>
    rw [Focus.selects] at hid
    split at hid
    next hlisted =>
      rw [Option.mem_def.mp hid] at hlisted
      exact List.mem_append_left _ (List.contains_iff_mem.mp hlisted)
    next => exact hcurrent hid
  | sends made provider context user assistant =>
    cases hc : d.current with
    | some current =>
      refine hcurrent ?_
      simpa [Focus.selects, focus, hc] using hid
    | none =>
      obtain rfl : made = id := by simpa [Focus.selects, focus, hc] using hid
      simp [Focus.after, Focus.makes?, focus, hc]
  | _ => exact hcurrent hid

theorem arranged (a : Act π) (hfresh : ∀ id ∈ d.focus.makes? a, id ∉ d.focus.listed) : (d.arranged a).IsSound := by
  have hids := d.map_id_arranged a
  refine ⟨h.null, ?_, fun s hs => ?_, fun id hid => ?_⟩
  · rw [hids, Focus.after]
    refine List.nodup_append.mpr ⟨h.distinct, by cases d.focus.makes? a <;> simp, fun x hx y hy he => ?_⟩
    exact hfresh y (Option.mem_toList.mp hy) (he ▸ hx)
  · rcases List.mem_append.mp hs with hs | hs
    · exact h.proper s hs
    · obtain ⟨id, -, rfl⟩ := List.mem_map.mp hs
      rfl
  · rw [hids]
    exact h.mem_of_selects a id hid

/-- A session is made under an identifier that is not in use, and then all is as it should be again. -/
theorem acted (a : Act π) (hfresh : ∀ id ∈ d.focus.makes? a, id ∉ d.focus.listed) : (d.acted a).IsSound :=
  (h.arranged a hfresh).play _

/-- What can be told after an act is told by the act alone. -/
theorem focus_acted (a : Act π) : (d.acted a).focus = d.focus.after a := by
  obtain ⟨hids, hcurrent⟩ := (d.arranged a).map_id_play (d.focus.movesOf a)
  have hnull : (d.acted a).null = d.null.run (movesFor .null (d.focus.movesOf a)) := (d.arranged a).null_play _
  have hdraft : (d.acted a).null.prompt = d.focus.drafts a := by rw [hnull, h.null.prompt_run_movesOf rfl]
  rw [focus, hdraft, Directory.acted, hids, hcurrent, d.map_id_arranged]
  rfl

end Directory.IsSound

namespace Directory

/-- A session that is there after an act was there before, or is new. -/
theorem session?_arranged (d : Directory) (a : Act π) (key : SessionKey) :
    (d.arranged a).session? key = if (d.focus.after a).holds key then some ((d.session? key).getD key.blank) else none := by
  cases key with
  | null => rfl
  | listed id =>
    have hget : (d.arranged a).get? id =
        (d.get? id).or (((d.focus.makes? a).toList.map Session.new).find? fun s => s.id = id) := List.find?_append
    have hheld : (d.focus.after a).holds (.listed id) = ((d.get? id).isSome || (d.focus.makes? a).toList.contains id) := by
      rw [← session?_listed, isSome_session?_iff, Focus.holds, Focus.holds, Focus.after, List.contains_append]
    rw [session?_listed, session?_listed, hget, hheld]
    cases d.get? id with
    | some s => rfl
    | none =>
      cases d.focus.makes? a with
      | none => rfl
      | some made =>
        by_cases hm : made = id
        · subst hm
          simp [Session.new, SessionKey.blank]
        · simp [Session.new, hm, Ne.symm hm]

/-- An act that makes and selects nothing leaves it to its moves to change anything. -/
theorem arranged_eq {d : Directory} {a : Act π} (hm : d.focus.makes? a = none) (hc : d.focus.selects a = d.current) :
    d.arranged a = d := by
  rw [arranged, hm, hc, Option.toList_none, List.map_nil, List.append_nil]

/-- A session is selected just if it is there. -/
theorem exists_select (d : Directory) (target : Option Uuid) :
    (target.all d.focus.listed.contains = true ∧ d.select target = .ok { d with current := target }) ∨
      target.all d.focus.listed.contains = false ∧ ∃ e, d.select target = .error e := by
  cases target with
  | none => exact .inl ⟨rfl, rfl⟩
  | some id =>
    have hsome : (d.get? id).isSome = d.focus.listed.contains id := d.isSome_session?_iff (.listed id)
    rw [select, hsome, Option.all_some]
    cases d.focus.listed.contains id with
    | true => exact .inl ⟨rfl, rfl⟩
    | false => exact .inr ⟨rfl, _, rfl⟩

theorem session?_acted (d : Directory) (a : Act π) (key : SessionKey) :
    (d.acted a).session? key =
      if (d.focus.after a).holds key then
        some (((d.session? key).getD key.blank).run (movesFor key (d.focus.movesOf a)))
      else none := by
  rw [acted, session?_play, session?_arranged]
  split <;> rfl

theorem turnsOfAct_filter (d : Directory) (a : Act π) (key : SessionKey) :
    ((d.turnsOfAct a).filter fun t => t.1 = key).map Prod.snd =
      if (d.focus.after a).holds key then ((d.session? key).getD key.blank).turns (movesFor key (d.focus.movesOf a)) else [] := by
  rw [turnsOfAct, turnsOf_filter, session?_arranged]
  split <;> simp

/-- Whatever is done to a service, what becomes of a session, and what comes of each of its moves, is what its own moves do alone. -/
theorem IsSound.projects {d : Directory} (h : d.IsSound) {acts : List (Act π)} (hnew : d.focus.MakesAnew acts) {key : SessionKey}
    (hkey : (d.focus.afterAll acts).holds key = true) :
    (d.actedAll acts).session? key = some (((d.session? key).getD key.blank).run (d.focus.concerning key acts)) ∧
      ((d.turnsOfActs acts).filter fun t => t.1 = key).map Prod.snd =
        ((d.session? key).getD key.blank).turns (d.focus.concerning key acts) := by
  induction acts generalizing d with
  | nil =>
    have hsome : (d.session? key).isSome = true := (d.isSome_session?_iff key).trans hkey
    obtain ⟨s, hs⟩ := Option.isSome_iff_exists.mp hsome
    exact ⟨by rw [hs]; exact hs, rfl⟩
  | cons a rest ih =>
    obtain ⟨hfresh, hrest⟩ := hnew
    rw [← h.focus_acted] at hrest
    obtain ⟨hrun, hturns⟩ := ih (h.acted a hfresh) hrest (by rw [h.focus_acted]; exact hkey)
    rw [h.focus_acted, session?_acted] at hrun hturns
    rw [turnsOfActs, List.filter_append, List.map_append, turnsOfAct_filter, hturns, Focus.concerning]
    cases hheld : (d.focus.after a).holds key with
    | true =>
      rw [hheld, if_pos rfl] at hrun
      rw [if_pos rfl, if_pos rfl, Session.run_append, Session.turns_append]
      exact ⟨hrun, rfl⟩
    | false =>
      -- the session is made by a later act, and until then nothing concerns it
      have hnone : d.session? key = none := by
        rw [← Option.not_isSome_iff_eq_none, isSome_session?_iff]
        intro hk
        rw [Focus.holds_after hk a] at hheld
        cases hheld
      have hnothing : movesFor key (d.focus.movesOf a) = [] := by
        refine List.map_eq_nil_iff.mpr (List.filter_eq_nil_iff.mpr fun e he hek => ?_)
        rw [← of_decide_eq_true hek, Focus.holds_of_mem_movesOf h.current he] at hheld
        cases hheld
      rw [hheld, if_neg Bool.false_ne_true, Option.getD_none] at hrun
      rw [if_neg Bool.false_ne_true, if_neg Bool.false_ne_true, hnothing, hnone]
      exact ⟨hrun, rfl⟩

/-- What is started by a move is a response of the session that makes it. -/
theorem IsSound.key_of_started {d : Directory} (h : d.IsSound) {moves : List (SessionKey × Move π)} :
    ∀ t ∈ d.turnsOf moves, ∀ p ∈ t.2.started, t.1 = .listed p.session := by
  induction moves generalizing d with
  | nil => exact fun t ht => absurd ht List.not_mem_nil
  | cons e rest ih =>
    obtain ⟨key, m⟩ := e
    intro t ht p hp
    rcases List.mem_append.mp ht with ht | ht
    · obtain ⟨s, hs, rfl⟩ := List.mem_map.mp ht
      rw [Option.mem_toList] at hs
      cases key with
      | null =>
        obtain rfl := Option.some.inj hs
        rw [(h.null.take m).2.1] at hp
        cases hp
      | listed id =>
        have hid : p.session = s.id := ((s.takes m).generation_eq.2 p hp).1
        rw [hid, id_of_get? hs]
    · exact ih (h.moved key m) t ht p hp

theorem IsSound.key_of_started_acts {d : Directory} (h : d.IsSound) {acts : List (Act π)} (hnew : d.focus.MakesAnew acts) :
    ∀ t ∈ d.turnsOfActs acts, ∀ p ∈ t.2.started, t.1 = .listed p.session := by
  induction acts generalizing d with
  | nil => exact fun t ht => absurd ht List.not_mem_nil
  | cons a rest ih =>
    obtain ⟨hfresh, hrest⟩ := hnew
    rw [← h.focus_acted] at hrest
    intro t ht
    rcases List.mem_append.mp ht with ht | ht
    · exact (h.arranged a hfresh).key_of_started t ht
    · exact ih (h.acted a hfresh) hrest t ht

theorem IsSound.actedAll {d : Directory} (h : d.IsSound) {acts : List (Act π)} (hnew : d.focus.MakesAnew acts) :
    (d.actedAll acts).IsSound ∧ (d.actedAll acts).focus = d.focus.afterAll acts := by
  induction acts generalizing d with
  | nil => exact ⟨h, rfl⟩
  | cons a rest ih =>
    obtain ⟨hfresh, hrest⟩ := hnew
    rw [← h.focus_acted] at hrest
    obtain ⟨hsound, hfocus⟩ := ih (h.acted a hfresh) hrest
    rw [h.focus_acted] at hfocus
    exact ⟨hsound, hfocus⟩

end Directory

end Colloquy
