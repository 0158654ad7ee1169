import Mathlib.Data.List.Induction
import Mathlib.Data.List.TakeWhile
import Colloquy.Proofs.Session.Moves

/-!
# What a generation said

The log of a session is the moves that were carried out; only starts can fail. It tells what every message of the assistant
must be. The part of the log since the start of a generation, up to the first move that ends it, holds the pieces of text
that count (`said`), and that first move, if it settles the generation with an error, the mark of the message (`failure`).
The history holds just these messages (`history_eq_transcript`): what a generation does after its end, however long it goes
on, and whatever other generation is active then, is found in no message.
-/

namespace Colloquy

variable {π : Type}

/-- The stamps of the generations that a log starts. -/
def stamps (log : List (Move π)) : List Stamp :=
  log.filterMap Move.stamp?

/-- The moves since the start of a generation; generations are numbered from one in the order of their starts. -/
def since : Nat → List (Move π) → List (Move π)
  | 0, log => log
  | _ + 1, [] => []
  | g + 1, m :: rest => since (if m.isStart then g else g + 1) rest

/-- Whether a generation has ended. -/
def hasEnded (g : Nat) (log : List (Move π)) : Bool :=
  (since g log).any (Move.ends g)

/-- What a generation said from its start to its first end. -/
def said (g : Nat) (log : List (Move π)) : String :=
  String.join (((since g log).takeWhile fun m => !m.ends g).filterMap (Move.piece? g))

/-- The pieces of text that a generation said from its start to its first end. -/
def pieces (g : Nat) (log : List (Move π)) : List String :=
  ((since g log).takeWhile fun m => !m.ends g).filterMap (Move.piece? g)

theorem said_eq_join (g : Nat) (log : List (Move π)) : said g log = String.join (pieces g log) := rfl

/-- The error that a move settles a generation with, in words. -/
def Move.failure? (m : Move π) : Option String :=
  m.settlement?.bind fun r => r.2.map Error.message

/-- The mark that the first end of a generation leaves. -/
def failure (g : Nat) (log : List (Move π)) : Option String :=
  ((since g log).find? (Move.ends g)).bind Move.failure?

/-- The message that a log tells for a generation. -/
def toldMessage (log : List (Move π)) (g : Nat) (stamp : Stamp) : Message :=
  ⟨stamp.id, .assistant, said g log, stamp.time, failure g log⟩

/-- The message of an open generation after one more move. -/
def Message.after (x : Message) (g : Nat) (m : Move π) : Message :=
  { x with content := x.content ++ (m.piece? g).getD "", error := if m.ends g then m.failure? else none }

/-! ## One more move -/

theorem stamps_concat {log : List (Move π)} {m : Move π} (hm : m.isStart = false) : stamps (log ++ [m]) = stamps log := by
  cases hs : m.stamp? <;> simp_all [stamps, Move.isStart]

theorem since_concat {g : Nat} {log : List (Move π)} (h : g ≤ (stamps log).length) (m : Move π) :
    since g (log ++ [m]) = since g log ++ [m] := by
  induction log generalizing g with
  | nil =>
    obtain rfl : g = 0 := by simpa [stamps] using h
    rfl
  | cons x rest ih =>
    cases g with
    | zero => rfl
    | succ g =>
      simp only [List.cons_append, since]
      apply ih
      cases hx : x.stamp? <;> simp [stamps, Move.isStart, hx] at h ⊢ <;> exact h

/-- A start begins the part of the log that counts for its own generation. -/
theorem since_start {g : Nat} {log : List (Move π)} {m : Move π} (h : g = (stamps log).length) (hm : m.isStart = true) :
    since (g + 1) (log ++ [m]) = [] := by
  induction log generalizing g with
  | nil =>
    obtain rfl : g = 0 := by simpa [stamps] using h
    simp [since, hm]
  | cons x rest ih =>
    simp only [List.cons_append, since]
    cases hx : x.stamp? with
    | none =>
      simp only [Move.isStart, hx, Option.isSome_none, Bool.false_eq_true, if_false]
      exact ih (by simpa [stamps, hx] using h)
    | some stamp =>
      simp only [Move.isStart, hx, Option.isSome_some, if_true]
      cases g with
      | zero => simp [stamps, hx] at h
      | succ g => exact ih (by simpa [stamps, hx] using h)

theorem hasEnded_concat {g : Nat} {log : List (Move π)} (h : g ≤ (stamps log).length) (m : Move π) :
    hasEnded g (log ++ [m]) = (hasEnded g log || m.ends g) := by
  simp [hasEnded, since_concat h]

/-- A move that settles a generation ends it. -/
theorem Move.ends_of_settlement? {g : Nat} {m : Move π} {error : Option Error} (hm : m.settlement? = some (g, error)) :
    m.ends g = true := by
  cases m <;> simp_all [Move.ends, Move.settlement?]

/-- A move that settles a generation is no start. -/
theorem Move.isStart_of_settlement? {g : Nat} {m : Move π} {error : Option Error} (hm : m.settlement? = some (g, error)) :
    m.isStart = false := by
  cases m <;> simp_all [Move.isStart, Move.stamp?, Move.settlement?]

/-- What ends a generation is no piece of text. -/
theorem Move.piece?_of_ends {g : Nat} {m : Move π} (h : m.ends g = true) : m.piece? g = none := by
  cases m <;> first | rfl | cases h

/-- A generation that has not ended has the pieces that it had before and that of the move, if it is one of its own. -/
theorem pieces_concat_of_open {g : Nat} {log : List (Move π)} (h : g ≤ (stamps log).length) (ho : hasEnded g log = false)
    (m : Move π) : pieces g (log ++ [m]) = pieces g log ++ (m.piece? g).toList := by
  have hall : ∀ x ∈ since g log, (!x.ends g) = true := by simpa [hasEnded] using ho
  rw [pieces, pieces, since_concat h, List.takeWhile_append_of_pos hall, List.takeWhile_eq_self_iff.mpr hall,
    List.filterMap_append]
  cases hm : m.ends g with
  | true => simp [hm, Move.piece?_of_ends hm]
  | false => cases hp : m.piece? g <;> simp [hm, hp]

/-- A generation that has ended has no further pieces. -/
theorem pieces_concat_of_ended {g : Nat} {log : List (Move π)} (h : g ≤ (stamps log).length)
    (he : hasEnded g log = true) (m : Move π) : pieces g (log ++ [m]) = pieces g log := by
  obtain ⟨x, hx, hxe⟩ := List.any_eq_true.mp he
  have htake : ((since g log) ++ [m]).takeWhile (fun m => !m.ends g) = (since g log).takeWhile fun m => !m.ends g := by
    rw [List.takeWhile_append, if_neg]
    intro hlen
    have hall := List.takeWhile_eq_self_iff.mp ((List.takeWhile_prefix _).eq_of_length hlen)
    simpa [hxe] using hall x hx
  rw [pieces, pieces, since_concat h, htake]

/-- A generation that has not ended says what it said before and the piece of the move, if that is one of its own. -/
theorem said_concat_of_open {g : Nat} {log : List (Move π)} (h : g ≤ (stamps log).length) (ho : hasEnded g log = false)
    (m : Move π) : said g (log ++ [m]) = said g log ++ (m.piece? g).getD "" := by
  rw [said_eq_join, said_eq_join, pieces_concat_of_open h ho]
  cases m.piece? g <;> simp [String.join]

theorem failure_concat_of_open {g : Nat} {log : List (Move π)} (h : g ≤ (stamps log).length) (ho : hasEnded g log = false)
    (m : Move π) : failure g (log ++ [m]) = if m.ends g then m.failure? else none := by
  have hnone : (since g log).find? (Move.ends g) = none := by simpa [hasEnded] using ho
  cases hm : m.ends g <;> simp [failure, since_concat h, hnone, hm]

theorem failure_of_open {g : Nat} {log : List (Move π)} (ho : hasEnded g log = false) : failure g log = none := by
  have hnone : (since g log).find? (Move.ends g) = none := by simpa [hasEnded] using ho
  rw [failure, hnone]
  rfl

theorem toldMessage_concat_of_open {g : Nat} {log : List (Move π)} (h : g ≤ (stamps log).length)
    (ho : hasEnded g log = false) (m : Move π) (stamp : Stamp) :
    toldMessage (log ++ [m]) g stamp = (toldMessage log g stamp).after g m := by
  rw [toldMessage, said_concat_of_open h ho, failure_concat_of_open h ho]
  rfl

/-- A generation that has ended says nothing more and keeps its mark. -/
theorem toldMessage_concat_of_ended {g : Nat} {log : List (Move π)} (h : g ≤ (stamps log).length)
    (he : hasEnded g log = true) (m : Move π) : toldMessage (log ++ [m]) g = toldMessage log g := by
  obtain ⟨x, hx, hxe⟩ := List.any_eq_true.mp he
  have hfailure : failure g (log ++ [m]) = failure g log := by
    have hsome : ((since g log).find? (Move.ends g)).isSome = true := List.find?_isSome.mpr ⟨x, hx, hxe⟩
    obtain ⟨y, hy⟩ := Option.isSome_iff_exists.mp hsome
    rw [failure, failure, since_concat h, List.find?_append, hy]
    rfl
  funext stamp
  rw [toldMessage, toldMessage, said_eq_join, said_eq_join, pieces_concat_of_ended h he, hfailure]

/-- A move that does not touch an open generation changes nothing of what is told about it. -/
theorem told_of_untouched {g : Nat} {log : List (Move π)} {m : Move π} (h : g ≤ (stamps log).length)
    (hu : hasEnded g log = false → m.touches g = false) :
    toldMessage (log ++ [m]) g = toldMessage log g ∧ hasEnded g (log ++ [m]) = hasEnded g log := by
  rw [hasEnded_concat h]
  cases ho : hasEnded g log with
  | true => exact ⟨toldMessage_concat_of_ended h ho m, rfl⟩
  | false =>
    have ht := hu ho
    simp only [Move.touches, Bool.or_eq_false_iff, Option.isSome_eq_false_iff, Option.isNone_iff_eq_none] at ht
    obtain ⟨he, hp⟩ := ht
    refine ⟨funext fun stamp => ?_, by rw [he]; rfl⟩
    rw [toldMessage_concat_of_open h ho]
    simp [Message.after, toldMessage, he, hp, failure_of_open ho]

/-! ## The session as its log tells it -/

/-- The log tells what the generations of a session are and how each of them stands. -/
structure Session.ToldBy (s : Session) (log : List (Move π)) : Prop where
  generation : s.generation = (stamps log).length
  length : s.history.length = 2 * (stamps log).length
  started : s.isActive = true → 0 < (stamps log).length
  ended : ∀ g, 0 < g → g ≤ (stamps log).length → hasEnded g log = !s.owns g
  messages : ∀ i, s.history[2 * i + 1]? = (stamps log)[i]?.map (toldMessage log (i + 1))

namespace Session.ToldBy

variable {s t : Session} {log : List (Move π)} {m : Move π}

theorem new (id : Uuid) : (Session.new id).ToldBy ([] : List (Move π)) :=
  ⟨rfl, rfl, nofun, fun _ h h' => absurd h (Nat.not_lt.mpr h'), fun _ => rfl⟩

/-- A generation that has not ended is not touched by a move that touches none but the active one. -/
theorem untouched_of_not_owns (h : s.ToldBy log) {g : Nat} (hpos : 0 < g) (hg : g ≤ (stamps log).length)
    (hu : m.touches g = true → s.owns g = false) (ho : hasEnded g log = false) : m.touches g = false := by
  have howns : s.owns g = true := by simpa [ho] using h.ended g hpos hg
  by_contra ht
  simp [hu (by simpa using ht)] at howns

/-- A generation that is not the active one is told alike before and after a move that touches none but the active one. -/
theorem told_of_not_owns (h : s.ToldBy log) {g : Nat} (hpos : 0 < g) (hg : g ≤ (stamps log).length)
    (hu : m.touches g = true → s.owns g = false) :
    toldMessage (log ++ [m]) g = toldMessage log g ∧ hasEnded g (log ++ [m]) = hasEnded g log :=
  told_of_untouched hg (h.untouched_of_not_owns hpos hg hu)

/-- A move that is no start and touches no open generation. -/
theorem rests (h : s.ToldBy log) (hm : m.isStart = false) (hu : ∀ g, m.touches g = true → s.owns g = false)
    (hh : t.history = s.history) (ha : t.isActive = s.isActive) (hg : t.generation = s.generation) :
    t.ToldBy (log ++ [m]) := by
  have howns : ∀ g, t.owns g = s.owns g := fun g => by simp [owns, ha, hg]
  constructor <;> rw [stamps_concat hm]
  · rw [hg, h.generation]
  · rw [hh, h.length]
  · rw [ha]
    exact h.started
  · intro g hpos hlen
    rw [(h.told_of_not_owns hpos hlen (hu g)).2, howns, h.ended g hpos hlen]
  · intro i
    rw [hh, h.messages i]
    by_cases hi : i < (stamps log).length
    · rw [(h.told_of_not_owns (Nat.succ_pos i) hi (hu (i + 1))).1]
    · rw [List.getElem?_eq_none (by omega)]
      rfl

/-- The active generation has not ended, and no error is told of it. -/
theorem open_of_active (h : s.ToldBy log) (ha : s.isActive = true) :
    s.generation ≤ (stamps log).length ∧ hasEnded s.generation log = false := by
  have hgen := h.generation
  have hpos := h.started ha
  refine ⟨by omega, ?_⟩
  rw [h.ended s.generation (by omega) (by omega)]
  simp [owns, ha]

/-- A move of the active generation, or a cancel: it puts its piece and its mark to the newest message. -/
theorem amends (h : s.ToldBy log) (hm : m.isStart = false) (ha : s.isActive = true) {change : Message → Message}
    (hh : t.history = s.history.modify (s.history.length - 1) change) (hg : t.generation = s.generation)
    (he : m.ends s.generation = !t.isActive)
    (hc : ∀ x : Message, x.error = none → change x = x.after s.generation m) : t.ToldBy (log ++ [m]) := by
  have hpos := h.started ha
  have hgen := h.generation
  have hopen := (h.open_of_active ha).2
  -- every generation but the active one has ended, so that the move tells nothing about it
  have hne : ∀ g, g ≠ s.generation → s.owns g = false := fun g hg => by simp [owns, ha, Ne.symm hg]
  constructor <;> rw [stamps_concat hm]
  · rw [hg, hgen]
  · rw [hh, List.length_modify, h.length]
  · exact fun _ => hpos
  · intro g hpos' hlen
    by_cases hg' : g = s.generation
    · rw [hasEnded_concat hlen, h.ended g hpos' hlen, hg', he]
      simp [owns, ha, hg]
    · rw [(h.told_of_not_owns hpos' hlen fun _ => hne g hg').2, h.ended g hpos' hlen, hne g hg']
      simp [owns, hg, Ne.symm hg']
  · intro i
    rw [hh, List.getElem?_modify, h.messages i, h.length]
    by_cases hi : i < (stamps log).length
    · rw [List.getElem?_eq_getElem hi]
      by_cases hi' : i + 1 = s.generation
      · have hlast : 2 * (stamps log).length - 1 = 2 * i + 1 := by omega
        have hopen' : hasEnded (i + 1) log = false := hi' ▸ hopen
        have hchange := hc (toldMessage log (i + 1) (stamps log)[i]) (failure_of_open hopen')
        rw [← hi', ← toldMessage_concat_of_open hi hopen'] at hchange
        simp [hlast, hchange]
      · have hlast : 2 * (stamps log).length - 1 ≠ 2 * i + 1 := by omega
        have htold := (h.told_of_not_owns (m := m) (Nat.succ_pos i) hi fun _ => hne (i + 1) hi').1
        simp [hlast, htold]
    · rw [List.getElem?_eq_none (by omega)]
      rfl

/-- A start that succeeds: the new generation has said nothing yet, and every earlier one has ended. -/
theorem begins (h : s.ToldBy log) (ha : s.isActive = false) {user assistant : Stamp} (hm : m.stamp? = some assistant) :
    (s.begun user assistant).ToldBy (log ++ [m]) := by
  have hstamps : stamps (log ++ [m]) = stamps log ++ [assistant] := by simp [stamps, hm]
  have hgen := h.generation
  have hlen := h.length
  have hended : ∀ g, 0 < g → g ≤ (stamps log).length → hasEnded g log = true := by
    intro g hpos hg
    rw [h.ended g hpos hg]
    simp [owns, ha]
  have hnew : since ((stamps log).length + 1) (log ++ [m]) = [] := since_start rfl (by simp [Move.isStart, hm])
  constructor
  · simp [begun, hgen, hstamps]
  · simp [begun, hlen, hstamps]
    omega
  · simp [hstamps]
  · intro g hpos hg
    rw [hstamps, List.length_append, List.length_singleton] at hg
    rcases Nat.lt_or_eq_of_le hg with hg' | rfl
    · have hg'' : g ≤ (stamps log).length := by omega
      have hne : (stamps log).length + 1 ≠ g := by omega
      rw [hasEnded_concat hg'', hended g hpos hg'']
      simp [owns, begun, hgen, hne]
    · simp [hasEnded, hnew, owns, begun, hgen]
  · intro i
    rw [hstamps, begun]
    rcases Nat.lt_trichotomy i (stamps log).length with hi | rfl | hi
    · have htold := toldMessage_concat_of_ended hi (hended (i + 1) (Nat.succ_pos i) hi) m
      rw [List.getElem?_append_left (by omega), List.getElem?_append_left hi, h.messages i, htold]
    · rw [List.getElem?_append_right (by omega), List.getElem?_append_right (by omega), hlen]
      simp [toldMessage, said, failure, hnew, Message.new, String.join]
    · rw [List.getElem?_eq_none (by simp [hlen]; omega), List.getElem?_eq_none (by simp; omega)]
      rfl

/-- Every move leaves the session as the log with the move tells it; a start that fails is not in the log. -/
theorem take (h : s.ToldBy log) (m : Move π) :
    (s.take m).session.ToldBy (log ++ if m.isStart && (s.take m).started.isNone then [] else [m]) := by
  have ht := s.takes m
  generalize s.take m = turn at ht
  cases ht with
  | begins provider context user assistant _ ha => exact h.begins ha rfl
  | speaks text ha =>
    refine h.amends rfl ha rfl rfl (by simp [Move.ends, Move.settlement?, ha]) fun x hx => ?_
    simp [Message.after, Move.piece?, Move.ends, Move.settlement?, hx]
  | settled m error hm ha =>
    have hends : m.ends s.generation = true := Move.ends_of_settlement? hm
    have hstart : m.isStart = false := Move.isStart_of_settlement? hm
    rw [hstart, Bool.false_and, if_neg (by simp)]
    refine h.amends hstart ha rfl rfl (by simp [hends]) fun x hx => ?_
    simp [Message.after, Move.piece?_of_ends hends, hends, Move.failure?, hm, hx]
  | cancelled ha =>
    refine h.amends rfl ha rfl rfl rfl fun x hx => ?_
    simp [Message.after, Move.piece?, Move.ends, Move.failure?, Move.settlement?, hx]
  | rests m t hu _ _ hh ha hg =>
    cases hm : m.isStart with
    | true =>
      have howns : ∀ g, t.owns g = s.owns g := fun g => by simp [owns, ha, hg]
      simp only [Option.isNone_none, Bool.and_true, if_true, List.append_nil]
      exact ⟨hg.trans h.generation, (congrArg List.length hh).trans h.length, fun ht => h.started (ha ▸ ht),
        fun g hpos hlen => (h.ended g hpos hlen).trans (by rw [howns]), fun i => hh ▸ h.messages i⟩
    | false => simpa using h.rests hm hu hh ha hg

/-- A session that was played is as its log tells. -/
theorem run (id : Uuid) (moves : List (Move π)) :
    ((Session.new id).run moves).ToldBy ((Session.new id).carriedOut moves) := by
  induction moves using List.reverseRecOn with
  | nil => exact new id
  | append_singleton moves m ih =>
    rw [run_concat, carriedOut_concat]
    exact ih.take m

/-- A generation that has ended is not the active one. -/
theorem not_owns (h : s.ToldBy log) {g : Nat} (he : hasEnded g log = true) : s.owns g = false := by
  by_contra ho
  obtain ⟨ha, rfl⟩ := (owns_iff s g).mp (by simpa using ho)
  rw [(h.open_of_active ha).2] at he
  exact absurd he Bool.false_ne_true

end Session.ToldBy

/-- For every session and everything done to it, in any order: the starts that succeeded are the generations `1`, `2`, and so
on; the message of each generation is what it said before its first end, marked with the error of that end if it was one; and
what it does after that end changes no message and is told to nobody. -/
theorem history_eq_transcript (id : Uuid) (moves : List (Move π)) :
    ((Session.new id).handedOut moves).map Pending.generation =
        List.range' 1 (stamps ((Session.new id).carriedOut moves)).length ∧
      (∀ i, ((Session.new id).run moves).history[2 * i + 1]? =
        (stamps ((Session.new id).carriedOut moves))[i]?.map fun stamp =>
          ⟨stamp.id, .assistant, said (i + 1) ((Session.new id).carriedOut moves), stamp.time,
            failure (i + 1) ((Session.new id).carriedOut moves)⟩) ∧
      ∀ (g : Nat) (late : Move π), hasEnded g ((Session.new id).carriedOut moves) = true → late.isBy g = true →
        (((Session.new id).run moves).take late).session.history = ((Session.new id).run moves).history ∧
          (((Session.new id).run moves).take late).notices = [] := by
  have h := Session.ToldBy.run id moves
  refine ⟨h.generation ▸ Session.map_generation_handedOut id moves, h.messages, fun g late he hby => ?_⟩
  exact (Session.takes _ late).of_not_owns (h.not_owns he) hby

/-- A cancelled generation that goes on talking while the next one is active. -/
def overtaken : List (Move Unit) :=
  [.start (some ()) none default ⟨.ofNat 1, default⟩, .delta 1 "One", .cancel,
    .start (some ()) none default ⟨.ofNat 2, default⟩, .delta 1 "late", .delta 2 "Two"]

/-- The message of the cancelled generation is cut at the cancel, and its failure is not seen. -/
theorem overtaken_says_nothing :
    hasEnded 1 ((Session.new .nil).carriedOut overtaken) = true ∧
      ((Session.new .nil).run overtaken).history[1]?.map (·.content) = some "One" ∧
      ((Session.new .nil).run overtaken).history[3]?.map (·.content) = some "Two" ∧
      (((Session.new .nil).run overtaken).take (.finish 1 (.error (.api .missingBody)) : Move Unit)).session.history =
        ((Session.new .nil).run overtaken).history := by
  have h := history_eq_transcript .nil overtaken
  have hended : hasEnded 1 ((Session.new .nil).carriedOut overtaken) = true := by decide
  refine ⟨hended, ?_, ?_, (h.2.2 1 _ hended (by decide)).1⟩
  · rw [h.2.1 0]
    rfl
  · rw [h.2.1 1]
    rfl

end Colloquy
