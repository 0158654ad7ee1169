import Mathlib.Data.List.Induction
import Colloquy.Session.Basic

/-!
# Moves of a session

Whatever is done to a session is a sequence of moves, each of which finds the session as the one before left it: notices are
delivered after a move has ended, so that what a listener does in return is a move of its own. `Session.Takes` says what a
move does to the conversation, in five cases: a generation begins, the active one speaks, it is settled, it is cancelled, or
nothing of the conversation changes. What holds of every session that was played is proved over these cases.
-/

namespace Colloquy

/-- What is done to a session. The generations that speak, finish, or are dropped need not be the active one. -/
inductive Move (π : Type) where
  /-- A start; the stamps are for its two messages. -/
  | start (provider : Option π) (context : Option Json) (user assistant : Stamp)
  /-- A generation emits a piece of text. -/
  | delta (generation : Nat) (text : String)
  /-- A generation was answered to its end. -/
  | finish (generation : Nat) (result : Except Error Unit)
  /-- A generation is given up. -/
  | drop (generation : Nat)
  | cancel
  /-- A generation is told to stop. -/
  | stop (generation : Nat)
  | setPrompt (text : String)
  | takePrompt
  | setTitle (text : String)
  | setSummary (text : Option String)
  | setScrollTop (position : Binary64)

/-- The error of a result, if it is one. -/
def failureOf : Except Error Unit → Option Error
  | .ok _ => none
  | .error e => some e

/-- What comes of a move: the session after it, the response that it started, and what observers are told. -/
structure Turn (π : Type) where
  session : Session
  started : Option (Pending π) := none
  notices : List Notice := []

variable {π : Type}

namespace Move

/-- The stamp of the message that a start puts there for the assistant. -/
def stamp? : Move π → Option Stamp
  | .start _ _ _ assistant => some assistant
  | _ => none

/-- Whether the move is a start. -/
def isStart (m : Move π) : Bool :=
  m.stamp?.isSome

/-- The generation that the move settles, and the error it settles it with. -/
def settlement? : Move π → Option (Nat × Option Error)
  | .finish g result => some (g, failureOf result)
  | .drop g => some (g, none)
  | _ => none

/-- Whether the move ends a generation that is still active: it settles this one, or cancels. -/
def ends (generation : Nat) : Move π → Bool
  | .cancel => true
  | m => m.settlement?.any fun r => r.1 = generation

/-- The piece of text that a generation emits by the move. -/
def piece? (generation : Nat) : Move π → Option String
  | .delta g text => if g = generation then some text else none
  | _ => none

/-- Whether the move would change the conversation if the generation were active. -/
def touches (generation : Nat) (m : Move π) : Bool :=
  m.ends generation || (m.piece? generation).isSome

/-- Whether it is the generation itself that makes the move. -/
def isBy (generation : Nat) (m : Move π) : Bool :=
  (m.piece? generation).isSome || m.settlement?.any fun r => r.1 = generation

end Move

namespace Session

/-- Takes a move. -/
def take (s : Session) : Move π → Turn π
  | .start provider context user assistant =>
    match s.start provider context user assistant with
    | .error _ => { session := s }
    | .ok r => ⟨r.session, some r.pending, r.notices⟩
  | .delta generation text => { session := (s.applyDelta generation text).1, notices := (s.applyDelta generation text).2 }
  | .finish generation result =>
    { session := (s.settle generation (failureOf result)).1, notices := (s.settle generation (failureOf result)).2 }
  | .drop generation => { session := (s.settle generation none).1, notices := (s.settle generation none).2 }
  | .cancel => { session := s.cancel.1, notices := s.cancel.2 }
  | .stop generation => { session := s.stop generation }
  | .setPrompt text => { session := s.setPrompt text }
  | .takePrompt => { session := s.setPrompt "" }
  | .setTitle text => { session := s.setTitle text }
  | .setSummary text => { session := s.setSummary text }
  | .setScrollTop position => { session := s.setScrollTop position }

/-- The session after some moves. -/
def run (s : Session) (moves : List (Move π)) : Session :=
  moves.foldl (fun s m => (s.take m).session) s

/-- What comes of some moves, one by one. -/
def turns (s : Session) : List (Move π) → List (Turn π)
  | [] => []
  | m :: rest => s.take m :: turns (s.take m).session rest

/-- The responses that were started by some moves. -/
def handedOut (s : Session) (moves : List (Move π)) : List (Pending π) :=
  (s.turns moves).filterMap Turn.started

/-- The moves without the starts that failed. -/
def carriedOut (s : Session) : List (Move π) → List (Move π)
  | [] => []
  | m :: rest =>
    (if m.isStart && (s.take m).started.isNone then [] else [m]) ++ carriedOut (s.take m).session rest

theorem run_append (s : Session) (a b : List (Move π)) : s.run (a ++ b) = (s.run a).run b := by
  rw [run, List.foldl_append]
  rfl

theorem run_concat (s : Session) (a : List (Move π)) (m : Move π) : s.run (a ++ [m]) = ((s.run a).take m).session := by
  rw [run_append]
  rfl

theorem turns_append (s : Session) (a b : List (Move π)) : s.turns (a ++ b) = s.turns a ++ (s.run a).turns b := by
  induction a generalizing s with
  | nil => rfl
  | cons m rest ih => rw [List.cons_append, turns, ih, turns]; rfl

theorem handedOut_concat (s : Session) (a : List (Move π)) (m : Move π) :
    s.handedOut (a ++ [m]) = s.handedOut a ++ ((s.run a).take m).started.toList := by
  rw [handedOut, turns_append, List.filterMap_append, turns, turns]
  cases h : ((s.run a).take m).started <;> simp [handedOut, h]

theorem carriedOut_append (s : Session) (a b : List (Move π)) :
    s.carriedOut (a ++ b) = s.carriedOut a ++ (s.run a).carriedOut b := by
  induction a generalizing s with
  | nil => rfl
  | cons m rest ih => rw [List.cons_append, carriedOut, ih, carriedOut, List.append_assoc]; rfl

theorem carriedOut_concat (s : Session) (a : List (Move π)) (m : Move π) :
    s.carriedOut (a ++ [m]) =
      s.carriedOut a ++ if m.isStart && ((s.run a).take m).started.isNone then [] else [m] := by
  rw [carriedOut_append, carriedOut, carriedOut, List.append_nil]

/-! ## What a move does -/

/-- The session with a new generation begun. -/
def begun (s : Session) (user assistant : Stamp) : Session :=
  { s with
    history := s.history ++ [.new user .user s.prompt, .new assistant .assistant ""]
    prompt := ""
    isActive := true
    generation := s.generation + 1 }

/-- The session with its newest message changed. -/
def withLast (s : Session) (change : Message → Message) : Session :=
  { s with history := s.history.modify (s.history.length - 1) change }

/-- The session with the active generation ended, and its message marked with the error, if there is one. -/
def endedWith (s : Session) (error : Option Error) : Session :=
  { s.withLast fun m => { m with error := (error.map Error.message) <|> m.error } with isActive := false }

@[simp] theorem withLast_id (s : Session) (change : Message → Message) : (s.withLast change).id = s.id := rfl

@[simp] theorem withLast_isActive (s : Session) (change : Message → Message) : (s.withLast change).isActive = s.isActive := rfl

@[simp] theorem withLast_generation (s : Session) (change : Message → Message) :
    (s.withLast change).generation = s.generation := rfl

@[simp] theorem endedWith_isActive (s : Session) (error : Option Error) : (s.endedWith error).isActive = false := rfl

@[simp] theorem endedWith_generation (s : Session) (error : Option Error) : (s.endedWith error).generation = s.generation := rfl

theorem amendLast_eq_withLast (s : Session) (change : Message → Message) : s.amendLast change = s.withLast change := by
  unfold amendLast last? withLast
  rcases List.eq_nil_or_concat s.history with h | ⟨rest, m, h⟩
  · simp only [h, List.getLast?_nil, List.modify_nil]
    rw [← h]
  · have hm : ∀ l : List Message, (l ++ [m]).modify l.length change = l ++ [change m] := by
      intro l
      induction l with
      | nil => rfl
      | cons x xs ih => simpa using ih
    simp [h, hm]

theorem endedWith_none (s : Session) : s.endedWith none = { s with isActive := false } := by
  have h : s.history.modify (s.history.length - 1) (fun m => { m with error := none <|> m.error }) = s.history := by
    refine List.ext_getElem? fun i => ?_
    rw [List.getElem?_modify]
    cases s.history[i]? <;> simp
  rw [endedWith, withLast, Option.map_none, h]

theorem endedWith_some (s : Session) (e : Error) :
    s.endedWith (some e) = { s with isActive := false }.amendLast fun m => { m with error := some e.message } := by
  rw [amendLast_eq_withLast]
  rfl

/-- What a move does to the conversation of a session. -/
inductive Takes (s : Session) : Move π → Turn π → Prop where
  | begins (provider : π) (context : Option Json) (user assistant : Stamp) :
    s.isNull = false → s.isActive = false →
      Takes s (.start (some provider) context user assistant)
        ⟨s.begun user assistant, some ⟨s.id, s.generation + 1, provider, s.request context⟩,
          [.active true, .response (.new assistant .assistant "")]⟩
  | speaks (text : String) :
    s.isActive = true →
      Takes s (.delta s.generation text)
        ⟨s.withLast fun m => { m with content := m.content ++ text }, none,
          (s.withLast fun m => { m with content := m.content ++ text }).lastNotice⟩
  | settled (m : Move π) (error : Option Error) :
    m.settlement? = some (s.generation, error) → s.isActive = true →
      Takes s m ⟨s.endedWith error, none, .active false :: (s.endedWith error).lastNotice⟩
  | cancelled :
    s.isActive = true →
      Takes s .cancel ⟨(s.stop s.generation).endedWith none, none,
        .active false :: ((s.stop s.generation).endedWith none).lastNotice⟩
  | rests (m : Move π) (t : Session) :
    (∀ g, m.touches g = true → s.owns g = false) →
    t.id = s.id → t.isNull = s.isNull → t.history = s.history → t.isActive = s.isActive → t.generation = s.generation →
      Takes s m ⟨t, none, []⟩

theorem owns_iff (s : Session) (g : Nat) : s.owns g = true ↔ s.isActive = true ∧ s.generation = g := by
  simp [owns]

/-- What a session that is idle starts, if there is somebody to answer. -/
theorem start_of_idle {s : Session} (hn : s.isNull = false) (ha : s.isActive = false) (provider : π)
    (context : Option Json) (user assistant : Stamp) :
    s.start (some provider) context user assistant =
      .ok ⟨s.begun user assistant, ⟨s.id, s.generation + 1, provider, s.request context⟩,
        [.active true, .response (.new assistant .assistant "")]⟩ := by
  simp [start, hn, ha, begun]

/-- A session that is idle starts what it is asked to, if there is somebody to answer. -/
theorem exists_start {s : Session} (hn : s.isNull = false) (ha : s.isActive = false) (provider : π)
    (context : Option Json) (user assistant : Stamp) :
    ∃ r, s.start (some provider) context user assistant = .ok r :=
  ⟨_, start_of_idle hn ha provider context user assistant⟩

/-- A session that is active starts nothing. -/
theorem start_of_active {s : Session} (hn : s.isNull = false) (ha : s.isActive = true) (provider : π)
    (context : Option Json) (user assistant : Stamp) :
    s.start (some provider) context user assistant =
      .error (.session "A response is already being generated for this session") := by
  simp [start, hn, ha]

/-- A start fails whatever its stamps are, or it finds an idle session and somebody to answer. -/
theorem start_cases (s : Session) (provider : Option π) (context : Option Json) :
    (∃ e, ∀ user assistant, s.start provider context user assistant = .error e) ∨
      s.isNull = false ∧ s.isActive = false ∧ ∃ p, provider = some p := by
  cases hn : s.isNull with
  | true => exact .inl ⟨.session "Null chat session cannot provide chat responses", fun _ _ => by simp [start, hn]⟩
  | false =>
    cases provider with
    | none => exact .inl ⟨.config "Can't provide chat response: No assistant selected", fun _ _ => by simp [start, hn]⟩
    | some p =>
      cases ha : s.isActive with
      | true => exact .inl ⟨_, fun _ _ => start_of_active hn ha p context _ _⟩
      | false => exact .inr ⟨rfl, rfl, p, rfl⟩

theorem takes_start (s : Session) (provider : Option π) (context : Option Json) (user assistant : Stamp) :
    Takes s (.start provider context user assistant) (s.take (.start provider context user assistant)) := by
  rcases s.start_cases provider context with ⟨e, he⟩ | ⟨hn, ha, p, rfl⟩
  · simp only [take, he]
    exact .rests _ s nofun rfl rfl rfl rfl rfl
  · simp only [take, start_of_idle hn ha]
    exact .begins p context user assistant hn ha

theorem takes_delta (s : Session) (g : Nat) (text : String) : Takes (π := π) s (.delta g text) (s.take (.delta g text)) := by
  cases ho : s.owns g with
  | true =>
    obtain ⟨ha, rfl⟩ := (owns_iff s g).mp ho
    simp only [take, applyDelta, ho, if_true, amendLast_eq_withLast]
    exact .speaks text ha
  | false =>
    simp only [take, applyDelta, ho, Bool.false_eq_true, if_false]
    refine .rests _ s (fun g' h => ?_) rfl rfl rfl rfl rfl
    obtain rfl : g = g' := by simpa [Move.touches, Move.ends, Move.settlement?, Move.piece?] using h
    exact ho

/-- A move that settles a generation: it does so if the generation is the active one. -/
theorem takes_settlement (s : Session) {m : Move π} {g : Nat} {error : Option Error} (hm : m.settlement? = some (g, error))
    (ht : s.take m = ⟨(s.settle g error).1, none, (s.settle g error).2⟩) : Takes s m (s.take m) := by
  rw [ht]
  cases ho : s.owns g with
  | true =>
    obtain ⟨ha, rfl⟩ := (owns_iff s g).mp ho
    have h := Takes.settled m error hm ha
    cases error with
    | none => simpa only [settle, ho, if_true, endedWith_none] using h
    | some e => simpa only [settle, ho, if_true, endedWith_some] using h
  | false =>
    simp only [settle, ho, Bool.false_eq_true, if_false]
    refine .rests _ s (fun g' h => ?_) rfl rfl rfl rfl rfl
    obtain rfl : g = g' := by cases m <;> simp_all [Move.touches, Move.ends, Move.settlement?, Move.piece?]
    exact ho

theorem takes_cancel (s : Session) : Takes (π := π) s .cancel (s.take .cancel) := by
  cases ha : s.isActive with
  | true =>
    have h := Takes.cancelled (π := π) ha
    simpa only [take, cancel, ha, if_true, endedWith_none] using h
  | false =>
    simp only [take, cancel, ha, Bool.false_eq_true, if_false]
    exact .rests _ s (fun g _ => by simp [owns, ha]) rfl rfl rfl rfl rfl

/-- Every move does one of these. -/
theorem takes (s : Session) (m : Move π) : Takes s m (s.take m) := by
  cases m with
  | start provider context user assistant => exact takes_start s provider context user assistant
  | delta g text => exact takes_delta s g text
  | finish g result => exact takes_settlement s rfl rfl
  | drop g => exact takes_settlement s rfl rfl
  | cancel => exact takes_cancel s
  | stop g => exact .rests _ _ nofun rfl rfl rfl rfl rfl
  | setPrompt text => exact .rests _ _ nofun rfl rfl rfl rfl rfl
  | takePrompt => exact .rests _ _ nofun rfl rfl rfl rfl rfl
  | setTitle text =>
    simp only [take, setTitle]
    split <;> exact .rests _ _ nofun rfl rfl rfl rfl rfl
  | setSummary text =>
    simp only [take, setSummary]
    split <;> exact .rests _ _ nofun rfl rfl rfl rfl rfl
  | setScrollTop position => exact .rests _ _ nofun rfl rfl rfl rfl rfl

/-- What a generation does that is not the active one changes no message, and nobody is told. -/
theorem Takes.of_not_owns {s : Session} {m : Move π} {turn : Turn π} (ht : Takes s m turn) {g : Nat}
    (hg : s.owns g = false) (hm : m.isBy g = true) : turn.session.history = s.history ∧ turn.notices = [] := by
  have hne : s.isActive = true → s.generation ≠ g := fun ha h => by simp [owns, ha, h] at hg
  cases ht with
  | begins provider context user assistant _ _ => simp [Move.isBy, Move.piece?, Move.settlement?] at hm
  | speaks text ha => simp [Move.isBy, Move.piece?, Move.settlement?, hne ha] at hm
  | settled m error hs ha => cases m <;> simp_all [Move.isBy, Move.piece?, Move.settlement?]
  | cancelled _ => simp [Move.isBy, Move.piece?, Move.settlement?] at hm
  | rests m t _ _ _ hh _ _ => exact ⟨hh, rfl⟩

/-- What a generation does that is not the active one leaves the session as it is. -/
theorem take_of_not_owns {s : Session} {g : Nat} (hg : s.owns g = false) {m : Move π} (hm : m.isBy g = true) :
    s.take m = { session := s } := by
  have hsettled {g' : Nat} {error : Option Error} (h : m.settlement? = some (g', error)) : g' = g := by
    cases m <;> simp_all [Move.isBy, Move.piece?, Move.settlement?]
  cases m with
  | delta g' text =>
    obtain rfl : g' = g := by simpa [Move.isBy, Move.piece?, Move.settlement?] using hm
    simp [take, applyDelta, hg]
  | finish g' result => simp [take, settle, hsettled rfl, hg]
  | drop g' => simp [take, settle, hsettled rfl, hg]
  | _ => simp [Move.isBy, Move.piece?, Move.settlement?] at hm

/-- No move makes another session of a session. -/
theorem Takes.same {s : Session} {m : Move π} {turn : Turn π} (ht : Takes s m turn) :
    turn.session.id = s.id ∧ turn.session.isNull = s.isNull := by
  cases ht with
  | rests m t _ hid hnull _ _ _ => exact ⟨hid, hnull⟩
  | _ => exact ⟨rfl, rfl⟩

/-- No session that was played is the null session. -/
theorem isNull_run (id : Uuid) (moves : List (Move π)) : ((new id).run moves).isNull = false := by
  induction moves using List.reverseRecOn with
  | nil => rfl
  | append_singleton moves m ih => rw [run_concat, (takes _ m).same.2, ih]

/-- Only a start begins a generation, and what it hands out bears the number of that generation. -/
theorem Takes.generation_eq {s : Session} {m : Move π} {turn : Turn π} (ht : Takes s m turn) :
    turn.session.generation = s.generation + turn.started.toList.length ∧
      ∀ p ∈ turn.started, p.session = s.id ∧ p.generation = s.generation + 1 := by
  cases ht with
  | begins provider context user assistant _ _ => simp [begun]
  | speaks text _ => simp
  | settled m error _ _ => simp
  | cancelled _ => simp [stop]
  | rests m t _ _ _ _ _ hg => simp [hg]

/-- The responses that a session hands out are numbered from one, in order. -/
theorem map_generation_handedOut (id : Uuid) (moves : List (Move π)) :
    ((new id).handedOut moves).map Pending.generation = List.range' 1 ((new id).run moves).generation := by
  induction moves using List.reverseRecOn with
  | nil => rfl
  | append_singleton moves m ih =>
    obtain ⟨hgen, hstarted⟩ := (((new id).run moves).takes m).generation_eq
    rw [handedOut_concat, run_concat, List.map_append, ih, hgen]
    cases h : (((new id).run moves).take m).started with
    | none => simp
    | some p =>
      rw [Option.toList_some, List.length_singleton, List.range'_concat, Nat.one_mul]
      simp [(hstarted p h).2, Nat.add_comm]

end Session

end Colloquy
