import Colloquy.Proofs.Session.Notices

/-!
# Listeners that call back

Notices are delivered when the session is in its new state, to one listener after the other. A listener may itself make moves of
the session when it is called, and their notices are delivered before the next listener is called (`Crowd.Plays`). So a listener
may be told of a move when later moves have been told already.

Whoever is called before all those that call back hears the moves in their order, and what it heard last is so at the end: of the
activity (`Plays.knowsActivity_of_shows`), and of the newest message (`Plays.knowsMessage_of_shows`). Where callbacks change no
message, everybody who listens to the messages has heard the newest one last (`Plays.knowsMessage_of_keepsLast`).
-/

namespace Colloquy

variable {π L : Type}

namespace Move

/-- Whether the move changes nothing of the conversation, whatever the session is. -/
def edits : Move π → Bool
  | .stop _ | .setPrompt _ | .takePrompt | .setTitle _ | .setSummary _ | .setScrollTop _ => true
  | _ => false

/-- Whether the move leaves the newest message as it is, whatever the session is: it starts nothing, says nothing, and settles
nothing with an error. -/
def keepsLast : Move π → Bool
  | .start .. | .delta .. | .finish _ (.error _) => false
  | _ => true

theorem keepsLast_of_edits {m : Move π} (h : m.edits = true) : m.keepsLast = true := by
  cases m <;> first | rfl | cases h

end Move

namespace Session

/-- A session after moves that change nothing of the conversation. -/
structure Alike (s t : Session) : Prop where
  isActive : t.isActive = s.isActive
  generation : t.generation = s.generation
  last : t.last? = s.last?

theorem Alike.trans {s t u : Session} (h : s.Alike t) (h' : t.Alike u) : s.Alike u :=
  ⟨h'.isActive.trans h.isActive, h'.generation.trans h.generation, h'.last.trans h.last⟩

theorem take_of_edits (s : Session) {m : Move π} (h : m.edits = true) :
    (s.take m).notices = [] ∧ s.Alike (s.take m).session := by
  cases m with
  | start | delta | finish | drop | cancel => cases h
  | setTitle text =>
    refine ⟨rfl, ?_⟩
    simp only [take, setTitle]
    split <;> exact ⟨rfl, rfl, rfl⟩
  | setSummary text =>
    refine ⟨rfl, ?_⟩
    simp only [take, setSummary]
    split <;> exact ⟨rfl, rfl, rfl⟩
  | _ => exact ⟨rfl, rfl, rfl, rfl⟩

/-- Ending a generation without an error leaves its message as it is. -/
theorem last?_endedWith_none (s : Session) : (s.endedWith none).last? = s.last? := by
  rw [endedWith_none]
  rfl

theorem Takes.last?_of_keepsLast {s : Session} {m : Move π} {turn : Turn π} (ht : Takes s m turn)
    (hm : m.keepsLast = true) : turn.session.last? = s.last? ∧ turn.session.generation = s.generation := by
  cases ht with
  | begins => cases hm
  | speaks => cases hm
  | settled m error hs _ =>
    have hnone : error = none := by
      cases m with
      | finish g result =>
        cases result with
        | ok u => simpa [Move.settlement?, failureOf] using (congrArg Prod.snd (Option.some.inj hs)).symm
        | error e => cases hm
      | drop g => simpa [Move.settlement?] using (congrArg Prod.snd (Option.some.inj hs)).symm
      | _ => cases hs
    subst hnone
    exact ⟨s.last?_endedWith_none, rfl⟩
  | cancelled _ => exact ⟨(s.stop s.generation).last?_endedWith_none, rfl⟩
  | rests m t _ _ _ hh _ hg => exact ⟨by rw [last?, hh]; rfl, hg⟩

theorem lastNotice_begun (s : Session) (user assistant : Stamp) :
    (s.begun user assistant).lastNotice = [.response (.new assistant .assistant "")] := by
  simp [lastNotice, last?, begun]

theorem lastNotice_of_last? {s : Session} {m : Message} (h : s.last? = some m) : s.lastNotice = [.response m] := by
  rw [lastNotice, h]
  rfl

theorem lastNotice_of_none {s : Session} (h : s.last? = none) : s.lastNotice = [] := by
  rw [lastNotice, h]
  rfl

/-- A move tells of the newest message, after all else; or nothing, and then it leaves the conversation as it is. -/
theorem Takes.tells {s : Session} {m : Move π} {turn : Turn π} (ht : Takes s m turn) :
    (turn.notices = [] ∧ s.Alike turn.session) ∨ turn.notices = turn.session.lastNotice ∨
      ∃ v, turn.notices = .active v :: turn.session.lastNotice := by
  cases ht with
  | begins provider context user assistant _ _ => exact .inr (.inr ⟨true, by rw [lastNotice_begun]⟩)
  | speaks text _ => exact .inr (.inl rfl)
  | settled m error _ _ => exact .inr (.inr ⟨false, rfl⟩)
  | cancelled _ => exact .inr (.inr ⟨false, rfl⟩)
  | rests m t _ _ _ hh ha hg => exact .inl ⟨rfl, ha, hg, by rw [last?, hh]; rfl⟩

end Session

/-! ## Who is called, and what comes of it -/

/-- The listeners of a session, on either channel in the order in which they subscribed, and the moves of the session that each of
them may make when it is called. -/
structure Crowd (π L : Type) where
  activity : List L
  response : List L
  may : L → Move π → Prop

/-- Who is called with a notice. -/
def Crowd.listeners (c : Crowd π L) : Notice → List L
  | .active _ => c.activity
  | .response _ => c.response

/-- A session, and what its listeners have heard, with who heard it. -/
structure Hall (L : Type) where
  session : Session
  heard : List (L × Notice) := []

/-- A listener hears a notice. -/
def Hall.hear (h : Hall L) (l : L) (n : Notice) : Hall L :=
  { h with heard := h.heard ++ [(l, n)] }

/-- What goes on in a session: some moves are made, notices are delivered, or listeners are called with one of them. -/
inductive Task (π L : Type) where
  | moves (may : Move π → Prop)
  | notices (rest : List Notice)
  | calls (n : Notice) (rest : List L)

/-- How a task goes on, with all that it leads to, until it is done. -/
inductive Crowd.Plays (c : Crowd π L) : Task π L → Hall L → Hall L → Prop
  | rest (may : Move π → Prop) (h : Hall L) : Plays c (.moves may) h h
  /-- A move is made, and delivered, before the next one. -/
  | move {may : Move π → Prop} {m : Move π} {h h' h'' : Hall L} :
    may m → Plays c (.notices (h.session.take m).notices) { h with session := (h.session.take m).session } h' →
      Plays c (.moves may) h' h'' → Plays c (.moves may) h h''
  | delivered (h : Hall L) : Plays c (.notices []) h h
  | deliver {n : Notice} {rest : List Notice} {h h' h'' : Hall L} :
    Plays c (.calls n (c.listeners n)) h h' → Plays c (.notices rest) h' h'' → Plays c (.notices (n :: rest)) h h''
  | called (n : Notice) (h : Hall L) : Plays c (.calls n []) h h
  /-- A listener hears the notice, and makes its moves before the next one is called. -/
  | call {n : Notice} {l : L} {rest : List L} {h h' h'' : Hall L} :
    Plays c (.moves (c.may l)) (h.hear l n) h' → Plays c (.calls n rest) h' h'' → Plays c (.calls n (l :: rest)) h h''

/-- Whatever goes on, the session takes some moves. -/
theorem Crowd.Plays.exists_run {c : Crowd π L} {task : Task π L} {h h' : Hall L} (hp : c.Plays task h h') :
    ∃ moves : List (Move π), h'.session = h.session.run moves := by
  induction hp with
  | rest may h => exact ⟨[], rfl⟩
  | @move may m h h' h'' _ _ _ ihdeliver ihrest =>
    obtain ⟨moves, hmoves⟩ := ihdeliver
    obtain ⟨more, hmore⟩ := ihrest
    refine ⟨m :: (moves ++ more), ?_⟩
    rw [hmore, hmoves, ← Session.run_append]
    rfl
  | delivered h => exact ⟨[], rfl⟩
  | deliver _ _ ih ih' | call _ _ ih ih' =>
    obtain ⟨moves, hmoves⟩ := ih
    obtain ⟨more, hmore⟩ := ih'
    refine ⟨moves ++ more, ?_⟩
    rw [Session.run_append]
    exact hmore.trans (congrArg (·.run more) hmoves)
  | called n h => exact ⟨[], rfl⟩

/-- Moves that are made after other moves. -/
theorem Crowd.Plays.trans {c : Crowd π L} {may : Move π → Prop} {h h' h'' : Hall L} (hp : c.Plays (.moves may) h h')
    (hp' : c.Plays (.moves may) h' h'') : c.Plays (.moves may) h h'' := by
  generalize htask : Task.moves may = task at hp
  induction hp with
  | rest may h =>
    cases htask
    exact hp'
  | move hmay hdeliver _ _ ih =>
    cases htask
    exact .move hmay hdeliver (ih hp' rfl)
  | delivered | deliver | called | call => cases htask

/-- A listener that changes nothing of the conversation when it is called. -/
def Crowd.LeavesAlone (c : Crowd π L) (l : L) : Prop :=
  ∀ m, c.may l m → m.edits = true

namespace Hall

variable [DecidableEq L]

/-- What a listener heard last of a kind. -/
def lastHeard {β : Type} (kind : Notice → Option β) (h : Hall L) (l : L) : Option β :=
  (h.heard.filterMap fun e => if e.1 = l then kind e.2 else none).getLast?

/-- The activity that a listener heard of last. -/
abbrev lastValue (h : Hall L) (l : L) : Option Bool :=
  h.lastHeard Notice.value? l

/-- The message that a listener heard last. -/
abbrev lastMessage (h : Hall L) (l : L) : Option Message :=
  h.lastHeard Notice.message? l

/-- What a listener heard last of the activity is so, once a generation was started. -/
def KnowsActivity (h : Hall L) (l : L) : Prop :=
  0 < h.session.generation → h.lastValue l = some h.session.isActive

/-- The message that a listener heard last is the newest one. -/
def HeardLast (h : Hall L) (l : L) : Prop :=
  ∀ m, h.session.last? = some m → h.lastMessage l = some m

/-- The message that a listener heard last is the newest one, once a generation was started. -/
def KnowsMessage (h : Hall L) (l : L) : Prop :=
  0 < h.session.generation → h.HeardLast l

variable {h : Hall L} {l k : L} {n : Notice}

theorem lastHeard_hear {β : Type} (kind : Notice → Option β) :
    (h.hear k n).lastHeard kind l = (if k = l then kind n else none).or (h.lastHeard kind l) := by
  rw [lastHeard, hear, List.filterMap_append, List.getLast?_append]
  split
  next hk => cases hn : kind n <;> simp [hk, hn, lastHeard]
  next hk => simp [hk, lastHeard]

/-- Another notice, or another listener, changes nothing of what was heard last of a kind. -/
theorem lastHeard_hear_of_ne {β : Type} {kind : Notice → Option β} (hn : k = l → kind n = none) :
    (h.hear k n).lastHeard kind l = h.lastHeard kind l := by
  rw [lastHeard_hear]
  split
  next hk => rw [hn hk, Option.none_or]
  next => rw [Option.none_or]

theorem lastHeard_hear_self {β : Type} {kind : Notice → Option β} {b : β} (hn : kind n = some b) :
    (h.hear l n).lastHeard kind l = some b := by
  rw [lastHeard_hear, if_pos rfl, hn, Option.some_or]

theorem KnowsActivity.hear (hk : h.KnowsActivity l) (hn : k = l → n.value? = none) : (h.hear k n).KnowsActivity l :=
  fun hg => (lastHeard_hear_of_ne hn).trans (hk hg)

theorem HeardLast.hear (hk : h.HeardLast l) (hn : k = l → n.message? = none) : (h.hear k n).HeardLast l :=
  fun m hm => (lastHeard_hear_of_ne hn).trans (hk m hm)

end Hall

/-! ## The activity -/

namespace Crowd.Plays

variable {c : Crowd π L} {h h' : Hall L}

/-- Moves that change nothing of the conversation call nobody. -/
theorem alike_of_edits {may : Move π → Prop} (hp : c.Plays (.moves may) h h') (hm : ∀ m, may m → m.edits = true) :
    h.session.Alike h'.session := by
  generalize htask : Task.moves may = task at hp
  induction hp with
  | rest may h => exact ⟨rfl, rfl, rfl⟩
  | @move _ m h h' h'' hmay hdeliver _ _ ih =>
    cases htask
    obtain ⟨hnone, halike⟩ := h.session.take_of_edits (hm m hmay)
    rw [hnone] at hdeliver
    cases hdeliver
    exact halike.trans (ih rfl)
  | delivered | deliver | called | call => cases htask

/-- Listeners that change nothing of the conversation are called one after the other. -/
theorem alike_of_leavesAlone {n : Notice} {ls : List L} (hp : c.Plays (.calls n ls) h h')
    (hl : ∀ k ∈ ls, c.LeavesAlone k) : h.session.Alike h'.session := by
  induction ls generalizing h with
  | nil =>
    cases hp
    exact ⟨rfl, rfl, rfl⟩
  | cons k rest ih =>
    cases hp with
    | call hmoves hrest =>
      have halike := hmoves.alike_of_edits (hl k (.head _))
      exact halike.trans (ih hrest fun k hk => hl k (.tail _ hk))

end Crowd.Plays

section Order

variable {c : Crowd π L} {l : L}

/-- A listener that is called before all those that call back, or is the first of them. -/
def Crowd.ComesFirst (c : Crowd π L) (l : L) (ls : List L) : Prop :=
  ∃ pre post, ls = pre ++ l :: post ∧ (∀ k ∈ pre, c.LeavesAlone k) ∧ l ∉ post

/-- Of those who are left to be called, the first one that is not this listener leaves the conversation alone. -/
theorem Crowd.ComesFirst.cons_iff {k : L} {rest : List L} :
    c.ComesFirst l (k :: rest) → (k = l ∧ l ∉ rest) ∨ (c.LeavesAlone k ∧ c.ComesFirst l rest) := by
  rintro ⟨pre, post, hls, hpre, hpost⟩
  cases pre with
  | nil =>
    obtain ⟨rfl, rfl⟩ := List.cons.inj hls
    exact .inl ⟨rfl, hpost⟩
  | cons k' pre =>
    obtain ⟨rfl, rfl⟩ := List.cons.inj hls
    exact .inr ⟨hpre _ (.head _), pre, post, rfl, fun k hk => hpre k (.tail _ hk), hpost⟩

variable [DecidableEq L] {h h' : Hall L}

/-- What has to hold before a task for a listener to know of the activity after it. -/
def Task.ShowsActivity (c : Crowd π L) (l : L) (h : Hall L) : Task π L → Prop
  | .moves _ => h.KnowsActivity l
  | .notices ns => (h.KnowsActivity l ∧ ∀ n ∈ ns, n.value? = none) ∨
    ∃ rest, ns = .active h.session.isActive :: rest ∧ ∀ n ∈ rest, n.value? = none
  | .calls n ls => (h.KnowsActivity l ∧ (l ∈ ls → n.value? = none)) ∨
    n = .active h.session.isActive ∧ c.ComesFirst l ls

theorem value?_of_mem_lastNotice {s : Session} : ∀ n ∈ s.lastNotice, n.value? = none := by
  intro n hn
  obtain ⟨m, -, rfl⟩ := List.mem_map.mp hn
  rfl

/-- A move either tells of the activity first, or leaves it as it is. -/
theorem Hall.KnowsActivity.shows_of_takes (hk : h.KnowsActivity l) {m : Move π} {turn : Turn π}
    (ht : h.session.Takes m turn) :
    (Task.notices turn.notices : Task π L).ShowsActivity c l { h with session := turn.session } := by
  cases ht with
  | begins provider context user assistant _ _ => exact .inr ⟨_, rfl, fun n hn => by rw [List.mem_singleton.mp hn]; rfl⟩
  | speaks text _ => exact .inl ⟨hk, value?_of_mem_lastNotice⟩
  | settled m error _ _ => exact .inr ⟨_, rfl, value?_of_mem_lastNotice⟩
  | cancelled _ => exact .inr ⟨_, rfl, value?_of_mem_lastNotice⟩
  | rests m t _ _ _ _ ha hg =>
    refine .inl ⟨fun hpos => ?_, fun _ hn => absurd hn List.not_mem_nil⟩
    rw [ha]
    exact hk (hg ▸ hpos)

/-- Whoever listens to the activity, and is called before all those that call back, has at the end heard last what is so. -/
theorem Crowd.Plays.knowsActivity_of_shows {task : Task π L} (hl : c.ComesFirst l c.activity) (hp : c.Plays task h h')
    (hs : task.ShowsActivity c l h) : h'.KnowsActivity l := by
  induction hp with
  | rest may h => exact hs
  | @move may m h h' h'' _ _ _ ihdeliver ihrest => exact ihrest (ihdeliver (hs.shows_of_takes (h.session.takes m)))
  | delivered h =>
    rcases hs with ⟨hknows, -⟩ | ⟨rest, hnil, -⟩
    · exact hknows
    · cases hnil
  | @deliver n rest h h' h'' _ _ ihcalls ihrest =>
    refine ihrest (.inl ?_)
    rcases hs with ⟨hknows, hnone⟩ | ⟨rest', hcons, hnone⟩
    · exact ⟨ihcalls (.inl ⟨hknows, fun _ => hnone n (.head _)⟩), fun n hn => hnone n (.tail _ hn)⟩
    · obtain ⟨rfl, rfl⟩ := List.cons.inj hcons
      exact ⟨ihcalls (.inr ⟨rfl, hl⟩), hnone⟩
  | called n h =>
    rcases hs with ⟨hknows, -⟩ | ⟨-, pre, post, hnil, -⟩
    · exact hknows
    · simp at hnil
  | @call n k rest h h' h'' hmoves _ ihmoves ihrest =>
    rcases hs with ⟨hknows, hnone⟩ | ⟨rfl, hfirst⟩
    · have hafter := ihmoves (hknows.hear fun hk => hnone (hk ▸ .head _))
      exact ihrest (.inl ⟨hafter, fun hmem => hnone (.tail _ hmem)⟩)
    · rcases hfirst.cons_iff with ⟨rfl, hnot⟩ | ⟨halone, hfirst⟩
      · have hknows : (h.hear k (.active h.session.isActive)).KnowsActivity k := fun _ => Hall.lastHeard_hear_self rfl
        exact ihrest (.inl ⟨ihmoves hknows, fun hmem => absurd hmem hnot⟩)
      · have halike := hmoves.alike_of_edits halone
        refine ihrest (.inr ⟨?_, hfirst⟩)
        rw [halike.isActive]
        rfl

/-! ## The newest message -/

/-- What has to hold before a task for a listener to have heard the newest message last after it. -/
def Task.ShowsMessage (c : Crowd π L) (l : L) (h : Hall L) : Task π L → Prop
  | .moves _ => h.KnowsMessage l
  | .notices ns => (ns = [] ∧ h.KnowsMessage l) ∨ ns = h.session.lastNotice ∨ ∃ v, ns = .active v :: h.session.lastNotice
  | .calls n ls => (h.KnowsMessage l ∧ (l ∈ ls → n.message? = none)) ∨
    ∃ m, n = .response m ∧ h.session.last? = some m ∧ c.ComesFirst l ls

theorem Hall.knowsMessage_of_none (hn : h.session.last? = none) : h.KnowsMessage l := by
  intro _ m hm
  rw [hn] at hm
  cases hm

/-- What is known is known of every session that is alike, if nothing was heard since. -/
theorem Hall.KnowsMessage.of_alike (hk : h.KnowsMessage l) {t : Session} (ht : h.session.Alike t) :
    ({ h with session := t } : Hall L).KnowsMessage l :=
  fun hpos m hm => hk (ht.generation ▸ hpos) m (ht.last ▸ hm)

/-- Whoever listens to the messages, where those who listen to the activity do not call back, and is called before all those that
call back, has at the end heard the newest message last. -/
theorem Crowd.Plays.knowsMessage_of_shows {task : Task π L} (ha : ∀ k ∈ c.activity, c.LeavesAlone k)
    (hl : c.ComesFirst l c.response) (hp : c.Plays task h h') (hs : task.ShowsMessage c l h) : h'.KnowsMessage l := by
  induction hp with
  | rest may h => exact hs
  | @move may m h h' h'' _ _ _ ihdeliver ihrest =>
    refine ihrest (ihdeliver ?_)
    rcases (h.session.takes m).tells with ⟨hnil, halike⟩ | hlast
    · exact .inl ⟨hnil, hs.of_alike halike⟩
    · exact .inr hlast
  | delivered h =>
    rcases hs with ⟨-, hknows⟩ | hnil | ⟨v, hnil⟩
    · exact hknows
    · cases hlast : h.session.last? with
      | none => exact Hall.knowsMessage_of_none hlast
      | some m =>
        rw [Session.lastNotice_of_last? hlast] at hnil
        cases hnil
    · cases hnil
  | @deliver n rest h h' h'' hcalls _ ihcalls ihrest =>
    refine ihrest ?_
    rcases hs with ⟨hnil, -⟩ | hlast | ⟨v, hlast⟩
    · cases hnil
    · cases hm : h.session.last? with
      | none =>
        rw [Session.lastNotice_of_none hm] at hlast
        cases hlast
      | some m =>
        rw [Session.lastNotice_of_last? hm] at hlast
        obtain ⟨rfl, rfl⟩ := List.cons.inj hlast
        exact .inl ⟨rfl, ihcalls (.inr ⟨m, rfl, hm, hl⟩)⟩
    · obtain ⟨rfl, rfl⟩ := List.cons.inj hlast
      have halike := hcalls.alike_of_leavesAlone ha
      refine .inr (.inl ?_)
      rw [Session.lastNotice, Session.lastNotice, halike.last]
  | called n h =>
    rcases hs with ⟨hknows, -⟩ | ⟨m, -, -, pre, post, hnil, -⟩
    · exact hknows
    · simp at hnil
  | @call n k rest h h' h'' hmoves _ ihmoves ihrest =>
    rcases hs with ⟨hknows, hnone⟩ | ⟨m, rfl, hm, hfirst⟩
    · have hheard : (h.hear k n).KnowsMessage l := fun hpos => (hknows hpos).hear fun hk => hnone (hk ▸ .head _)
      exact ihrest (.inl ⟨ihmoves hheard, fun hmem => hnone (.tail _ hmem)⟩)
    · rcases hfirst.cons_iff with ⟨rfl, hnot⟩ | ⟨halone, hfirst⟩
      · have hheard : (h.hear k (.response m)).KnowsMessage k := fun _ m' hm' => by
          obtain rfl := Option.some.inj (hm.symm.trans hm')
          exact Hall.lastHeard_hear_self rfl
        exact ihrest (.inl ⟨ihmoves hheard, fun hmem => absurd hmem hnot⟩)
      · have halike := hmoves.alike_of_edits halone
        exact ihrest (.inr ⟨m, rfl, halike.last.trans hm, hfirst⟩)

/-! ## Callbacks that change no message -/

/-- A listener that leaves every message as it is when it is called. -/
def Crowd.KeepsMessages (c : Crowd π L) (l : L) : Prop :=
  ∀ m, c.may l m → m.keepsLast = true

/-- A task after which the newest message is what it was. -/
def Task.KeepsLast (c : Crowd π L) (h : Hall L) : Task π L → Prop
  | .moves may => ∀ m, may m → m.keepsLast = true
  | .notices ns => ∀ m, .response m ∈ ns → h.session.last? = some m
  | .calls n ls => (∀ k ∈ ls, c.KeepsMessages k) ∧ ∀ m, n = .response m → h.session.last? = some m

/-- A task in which a listener is told a message. -/
def Task.Reaches (c : Crowd π L) (l : L) : Task π L → Prop
  | .moves _ => False
  | .notices ns => l ∈ c.response ∧ ∃ m, .response m ∈ ns
  | .calls n ls => l ∈ ls ∧ ∃ m, n = .response m

/-- Where no callback changes a message, the newest message stays what it is, and whoever hears a message hears this one. -/
theorem Crowd.Plays.keepsLast {task : Task π L} (hc : ∀ k ∈ c.activity ++ c.response, c.KeepsMessages k)
    (hp : c.Plays task h h') (ht : task.KeepsLast c h) :
    (h'.session.last? = h.session.last? ∧ h'.session.generation = h.session.generation) ∧
      (h.HeardLast l ∨ task.Reaches c l → h'.HeardLast l) := by
  induction hp with
  | rest may h => exact ⟨⟨rfl, rfl⟩, fun hl => hl.resolve_right id⟩
  | @move may m h h' h'' hmay _ _ ihdeliver ihrest =>
    have htakes := h.session.takes m
    obtain ⟨hlast, hgen⟩ := htakes.last?_of_keepsLast (ht m hmay)
    obtain ⟨⟨hlast', hgen'⟩, hheard⟩ := ihdeliver fun m' hm' => htakes.holds _ hm'
    obtain ⟨⟨hlast'', hgen''⟩, hheard'⟩ := ihrest ht
    refine ⟨⟨hlast''.trans (hlast'.trans hlast), hgen''.trans (hgen'.trans hgen)⟩, fun hl => ?_⟩
    have hsame : ({ h with session := (h.session.take m).session } : Hall L).HeardLast l := fun m' hm' =>
      (hl.resolve_right id) m' (hlast ▸ hm')
    exact hheard' (.inl (hheard (.inl hsame)))
  | delivered h => exact ⟨⟨rfl, rfl⟩, fun hl => hl.resolve_right fun ⟨_, _, hm⟩ => absurd hm List.not_mem_nil⟩
  | @deliver n rest h h' h'' _ _ ihcalls ihrest =>
    have hcalled : ∀ k ∈ c.listeners n, c.KeepsMessages k := fun k hk => hc k (by
      cases n with
      | active v => exact List.mem_append_left _ hk
      | response m => exact List.mem_append_right _ hk)
    obtain ⟨⟨hlast, hgen⟩, hheard⟩ := ihcalls ⟨hcalled, fun m hm => ht m (hm ▸ .head _)⟩
    obtain ⟨⟨hlast', hgen'⟩, hheard'⟩ := ihrest fun m hm => hlast.trans (ht m (.tail _ hm))
    refine ⟨⟨hlast'.trans hlast, hgen'.trans hgen⟩, ?_⟩
    rintro (hl | ⟨hmem, m, hm⟩)
    · exact hheard' (.inl (hheard (.inl hl)))
    · rcases List.mem_cons.mp hm with rfl | hm
      · exact hheard' (.inl (hheard (.inr ⟨hmem, m, rfl⟩)))
      · exact hheard' (.inr ⟨hmem, m, hm⟩)
  | called n h => exact ⟨⟨rfl, rfl⟩, fun hl => hl.resolve_right fun ⟨hm, _⟩ => absurd hm List.not_mem_nil⟩
  | @call n k rest h h' h'' _ _ ihmoves ihrest =>
    obtain ⟨hkeep, ht⟩ := ht
    obtain ⟨⟨hlast, hgen⟩, hheard⟩ := ihmoves (hkeep k (.head _))
    obtain ⟨⟨hlast', hgen'⟩, hheard'⟩ := ihrest ⟨fun k hk => hkeep k (.tail _ hk), fun m hm => hlast.trans (ht m hm)⟩
    refine ⟨⟨hlast'.trans hlast, hgen'.trans hgen⟩, ?_⟩
    -- whoever is called now hears the newest message, if it is a message
    have hself (m : Message) (hn : n = .response m) (hk : k = l) : (h.hear k n).HeardLast l := fun m' hm' => by
      obtain rfl := Option.some.inj ((ht m hn).symm.trans hm')
      subst hk hn
      exact Hall.lastHeard_hear_self rfl
    rintro (hl | ⟨hmem, m, hm⟩)
    · refine hheard' (.inl (hheard (.inl ?_)))
      cases n with
      | active v => exact hl.hear fun _ => rfl
      | response m =>
        by_cases hk : k = l
        · exact hself m rfl hk
        · exact hl.hear fun h => absurd h hk
    · rcases List.mem_cons.mp hmem with rfl | hmem
      · exact hheard' (.inl (hheard (.inl (hself m hm rfl))))
      · exact hheard' (.inr ⟨hmem, m, hm⟩)

/-- Where no callback changes a message, all who listen to the messages have at the end heard the newest one last. -/
theorem Crowd.Plays.knowsMessage_of_keepsLast {may : Move π → Prop}
    (hc : ∀ k ∈ c.activity ++ c.response, c.KeepsMessages k) (hl : l ∈ c.response) (hp : c.Plays (.moves may) h h') (hk : h.KnowsMessage l) : h'.KnowsMessage l := by
  generalize htask : Task.moves may = task at hp
  induction hp with
  | rest may h => exact hk
  | @move _ m h h' h'' _ hdeliver _ _ ihrest =>
    cases htask
    refine ihrest ?_ rfl
    have htakes := h.session.takes m
    rcases htakes.tells with ⟨hnil, halike⟩ | htells
    · rw [hnil] at hdeliver
      cases hdeliver
      exact hk.of_alike halike
    · obtain ⟨⟨hlast, -⟩, hheard⟩ := hdeliver.keepsLast (l := l) hc fun m' hm' => htakes.holds _ hm'
      cases hnew : (h.session.take m).session.last? with
      | none => exact Hall.knowsMessage_of_none (hlast.trans hnew)
      | some x =>
        have htold : Notice.response x ∈ (h.session.take m).notices := by
          rcases htells with htells | ⟨v, htells⟩ <;> rw [htells, Session.lastNotice_of_last? hnew]
          · exact .head _
          · exact .tail _ (.head _)
        exact fun _ => hheard (.inr ⟨hl, x, htold⟩)
  | delivered | deliver | called | call => cases htask

end Order

end Colloquy
