import Mathlib.Data.List.Infix
import Colloquy.Proofs.Session.Shape

/-!
# What observers hear

Observers of a session that leave it alone hear, generation after generation, what the log tells of each (`account`): that the
session became active; the message of the generation, first without a text and then with every further piece; and, once it has
ended, that the session is idle, and the message as it stands then. Nothing else is heard (`heard_eq_accounts`), and whatever is
heard is true of the session at that moment.
-/

namespace Colloquy

variable {π : Type}

/-- The value of a notice of activity. -/
def Notice.value? : Notice → Option Bool
  | .active value => some value
  | .response _ => none

/-- The message of a notice of a response. -/
def Notice.message? : Notice → Option Message
  | .active _ => none
  | .response m => some m

/-- Whether a notice tells the truth about a session. -/
def Notice.Holds (s : Session) : Notice → Prop
  | .active value => s.isActive = value
  | .response m => s.last? = some m

/-- What observers are told by some moves. -/
def Session.heard (s : Session) (moves : List (Move π)) : List Notice :=
  (s.turns moves).flatMap Turn.notices

/-- The messages that a generation shows while it is active: one without a text, and one more with each piece. -/
def snapshots (log : List (Move π)) (g : Nat) (stamp : Stamp) : List Message :=
  (pieces g log).inits.map fun part => .new stamp .assistant (String.join part)

/-- What a log tells the observers of a generation. -/
def account (log : List (Move π)) (g : Nat) (stamp : Stamp) : List Notice :=
  .active true :: (snapshots log g stamp).map .response ++
    if hasEnded g log then [.active false, .response (toldMessage log g stamp)] else []

/-- What a log tells the observers of all generations, one after the other. -/
def accounts (log : List (Move π)) : List Notice :=
  ((stamps log).zipIdx 1).flatMap fun e => account log e.2 e.1

/-! ## One more move -/

theorem Session.heard_concat (s : Session) (moves : List (Move π)) (m : Move π) :
    s.heard (moves ++ [m]) = s.heard moves ++ ((s.run moves).take m).notices := by
  rw [heard, turns_append, List.flatMap_append, turns, turns, List.flatMap_singleton, heard]

/-- A move that does not touch an open generation gives no new account of it. -/
theorem account_of_untouched {g : Nat} {log : List (Move π)} {m : Move π} (h : g ≤ (stamps log).length)
    (hu : hasEnded g log = false → m.touches g = false) : account (log ++ [m]) g = account log g := by
  obtain ⟨htold, hended⟩ := told_of_untouched h hu
  have hpieces : pieces g (log ++ [m]) = pieces g log := by
    cases ho : hasEnded g log with
    | true => exact pieces_concat_of_ended h ho m
    | false =>
      have hnone : m.piece? g = none := by
        have ht := hu ho
        simp only [Move.touches, Bool.or_eq_false_iff, Option.isSome_eq_false_iff, Option.isNone_iff_eq_none] at ht
        exact ht.2
      rw [pieces_concat_of_open h ho, hnone, Option.toList_none, List.append_nil]
  funext stamp
  rw [account, account, snapshots, snapshots, hpieces, hended, htold]

/-- A piece of text of an open generation adds one message to its account. -/
theorem account_of_piece {g : Nat} {log : List (Move π)} {m : Move π} (h : g ≤ (stamps log).length)
    (ho : hasEnded g log = false) {text : String} (hm : m.piece? g = some text) (he : m.ends g = false) (stamp : Stamp) :
    account (log ++ [m]) g stamp = account log g stamp ++ [.response (toldMessage (log ++ [m]) g stamp)] := by
  have hended : hasEnded g (log ++ [m]) = false := by rw [hasEnded_concat h, ho, he]; rfl
  have hpieces : pieces g (log ++ [m]) = pieces g log ++ [text] := by
    rw [pieces_concat_of_open h ho, hm, Option.toList_some]
  have htold : toldMessage (log ++ [m]) g stamp = .new stamp .assistant (String.join (pieces g log ++ [text])) := by
    rw [toldMessage, failure_of_open hended, said_eq_join, hpieces, Message.new]
  rw [account, account, ho, hended, htold, snapshots, snapshots, hpieces, List.inits_append]
  simp

/-- The end of a generation closes its account. -/
theorem account_of_end {g : Nat} {log : List (Move π)} {m : Move π} (h : g ≤ (stamps log).length)
    (ho : hasEnded g log = false) (he : m.ends g = true) (stamp : Stamp) :
    account (log ++ [m]) g stamp =
      account log g stamp ++ [.active false, .response (toldMessage (log ++ [m]) g stamp)] := by
  have hended : hasEnded g (log ++ [m]) = true := by rw [hasEnded_concat h, he, Bool.or_true]
  have hpieces : pieces g (log ++ [m]) = pieces g log := by
    rw [pieces_concat_of_open h ho, Move.piece?_of_ends he, Option.toList_none, List.append_nil]
  rw [account, account, ho, hended, snapshots, snapshots, hpieces]
  simp

/-- A start opens the account of its generation. -/
theorem account_of_start {log : List (Move π)} {m : Move π} (hm : m.isStart = true) (stamp : Stamp) :
    account (log ++ [m]) ((stamps log).length + 1) stamp = [.active true, .response (.new stamp .assistant "")] := by
  have hsince : since ((stamps log).length + 1) (log ++ [m]) = [] := since_start rfl hm
  simp [account, snapshots, pieces, hasEnded, hsince, String.join]

/-- Of all accounts only the last one can have changed. -/
theorem accounts_eq_of_last {log log' : List (Move π)} {l : List Stamp} {x : Stamp} (hs : stamps log' = l ++ [x])
    (hsame : ∀ g, 0 < g → g ≤ l.length → account log' g = account log g) :
    accounts log' = ((l.zipIdx 1).flatMap fun e => account log e.2 e.1) ++ account log' (l.length + 1) x := by
  have hmap : ∀ e ∈ l.zipIdx 1, account log' e.2 e.1 = account log e.2 e.1 := fun e he => by
    obtain ⟨hpos, hlt, -⟩ := List.mem_zipIdx he
    rw [hsame e.2 (by omega) (by omega)]
  rw [accounts, hs, List.zipIdx_append, List.flatMap_append, List.flatMap_def, List.map_congr_left hmap, ← List.flatMap_def]
  simp [Nat.add_comm]

namespace Session.ToldBy

variable {s t : Session} {log : List (Move π)} {m : Move π}

/-- A generation that is not the active one is given no new account of by a move that touches none but the active one. -/
theorem account_of_not_owns (h : s.ToldBy log) {g : Nat} (hpos : 0 < g) (hg : g ≤ (stamps log).length)
    (hu : m.touches g = true → s.owns g = false) : account (log ++ [m]) g = account log g :=
  account_of_untouched hg (h.untouched_of_not_owns hpos hg hu)

/-- A move that is no start and touches no open generation is not heard of. -/
theorem accounts_of_rest (h : s.ToldBy log) (hm : m.isStart = false) (hu : ∀ g, m.touches g = true → s.owns g = false) :
    accounts (log ++ [m]) = accounts log := by
  have hmap : ∀ e ∈ (stamps log).zipIdx 1, account (log ++ [m]) e.2 e.1 = account log e.2 e.1 := fun e he => by
    obtain ⟨hpos, hlt, -⟩ := List.mem_zipIdx he
    rw [h.account_of_not_owns (by omega) (by omega) (hu e.2)]
  rw [accounts, accounts, stamps_concat hm, List.flatMap_def, List.map_congr_left hmap, ← List.flatMap_def]

/-- What a move of the active generation adds to its account is heard after all else. -/
theorem accounts_of_active (h : s.ToldBy log) (ha : s.isActive = true) (hm : m.isStart = false) {notices : List Notice}
    (hn : ∀ stamp, (stamps log).getLast? = some stamp →
      account (log ++ [m]) s.generation stamp = account log s.generation stamp ++ notices) :
    accounts (log ++ [m]) = accounts log ++ notices := by
  have hgen := h.generation
  obtain ⟨x, hx⟩ := Option.isSome_iff_exists.mp
    (List.getLast?_isSome.mpr (List.ne_nil_of_length_pos (h.started ha)))
  obtain ⟨l, hl⟩ := List.getLast?_eq_some_iff.mp hx
  have hlen : (stamps log).length = l.length + 1 := by rw [hl, List.length_append, List.length_singleton]
  have hsame : ∀ g, 0 < g → g ≤ l.length → account (log ++ [m]) g = account log g := fun g hpos hg => by
    have hne : s.generation ≠ g := by omega
    exact h.account_of_not_owns hpos (by omega) fun _ => by simp [owns, hne]
  have hnew := hn x hx
  rw [hgen, hlen] at hnew
  rw [accounts_eq_of_last ((stamps_concat hm).trans hl) hsame, accounts_eq_of_last hl fun _ _ _ => rfl, hnew,
    List.append_assoc]

/-- A start that succeeds is heard after all else. -/
theorem accounts_of_start (h : s.ToldBy log) (ha : s.isActive = false) {assistant : Stamp}
    (hm : m.stamp? = some assistant) :
    accounts (log ++ [m]) = accounts log ++ [.active true, .response (.new assistant .assistant "")] := by
  have hstart : m.isStart = true := by simp [Move.isStart, hm]
  have hstamps : stamps (log ++ [m]) = stamps log ++ [assistant] := by simp [stamps, hm]
  have hsame : ∀ g, 0 < g → g ≤ (stamps log).length → account (log ++ [m]) g = account log g := fun g hpos hg =>
    h.account_of_not_owns hpos hg fun _ => by simp [owns, ha]
  rw [accounts_eq_of_last hstamps hsame, account_of_start hstart, accounts]

/-- The newest message is that of the latest generation. -/
theorem last?_eq (h : s.ToldBy log) {stamp : Stamp} (hs : (stamps log).getLast? = some stamp) :
    s.last? = some (toldMessage log (stamps log).length stamp) := by
  obtain ⟨l, hl⟩ := List.getLast?_eq_some_iff.mp hs
  have hlen : (stamps log).length = l.length + 1 := by rw [hl, List.length_append, List.length_singleton]
  have hlast : s.history.length - 1 = 2 * l.length + 1 := by
    rw [h.length, hlen]
    omega
  rw [last?, List.getLast?_eq_getElem?, hlast, h.messages, hl, List.getElem?_concat_length, ← hl, hlen]
  rfl

theorem lastNotice_eq (h : s.ToldBy log) {stamp : Stamp} (hs : (stamps log).getLast? = some stamp) :
    s.lastNotice = [.response (toldMessage log (stamps log).length stamp)] := by
  rw [lastNotice, h.last?_eq hs]
  rfl

/-- What is heard of a move is what it adds to the accounts. -/
theorem accounts_take (h : s.ToldBy log) (m : Move π) :
    accounts (log ++ if m.isStart && (s.take m).started.isNone then [] else [m]) =
      accounts log ++ (s.take m).notices := by
  have ht := s.takes m
  have hafter := h.take m
  generalize s.take m = turn at ht hafter
  -- the message that a move of the active generation shows is the newest one
  have hshown {t : Session} (hm : m.isStart = false) {stamp : Stamp} (hs : (stamps log).getLast? = some stamp)
      (ht : t.ToldBy (log ++ [m])) : t.lastNotice = [.response (toldMessage (log ++ [m]) s.generation stamp)] := by
    rw [ht.lastNotice_eq (by rw [stamps_concat hm, hs]), stamps_concat hm, h.generation]
  cases ht with
  | begins provider context user assistant _ ha => exact h.accounts_of_start ha rfl
  | speaks text ha =>
    obtain ⟨hle, hopen⟩ := h.open_of_active ha
    have hpiece : (Move.delta s.generation text : Move π).piece? s.generation = some text := if_pos rfl
    have hgoes : (Move.delta s.generation text : Move π).ends s.generation = false := rfl
    refine h.accounts_of_active ha rfl fun stamp hs => ?_
    rw [account_of_piece hle hopen hpiece hgoes, hshown rfl hs hafter]
  | settled m error hm ha =>
    obtain ⟨hle, hopen⟩ := h.open_of_active ha
    have hends : m.ends s.generation = true := Move.ends_of_settlement? hm
    have hstart : m.isStart = false := Move.isStart_of_settlement? hm
    rw [hstart, Bool.false_and, if_neg Bool.false_ne_true] at hafter ⊢
    refine h.accounts_of_active ha hstart fun stamp hs => ?_
    rw [account_of_end hle hopen hends, hshown hstart hs hafter]
  | cancelled ha =>
    obtain ⟨hle, hopen⟩ := h.open_of_active ha
    refine h.accounts_of_active ha rfl fun stamp hs => ?_
    rw [account_of_end hle hopen rfl, hshown rfl hs hafter]
  | rests m t hu _ _ _ _ _ =>
    rw [List.append_nil]
    cases hm : m.isStart with
    | true => simp
    | false => simpa using h.accounts_of_rest hm hu

end Session.ToldBy

/-- What is heard of a session that was played is what its log tells. -/
theorem Session.heard_eq_accounts (id : Uuid) (moves : List (Move π)) :
    (new id).heard moves = accounts ((new id).carriedOut moves) := by
  induction moves using List.reverseRecOn with
  | nil => rfl
  | append_singleton moves m ih =>
    rw [heard_concat, carriedOut_concat, ih, (ToldBy.run id moves).accounts_take]

/-! ## Active and idle by turns -/

/-- The values heard of so many changes of activity: first that it is active, then that it is idle, and so on by turns. -/
def turnsOfActivity (n : Nat) : List Bool :=
  (List.range n).map fun i => i % 2 = 0

theorem turnsOfActivity_succ (n : Nat) : turnsOfActivity (n + 1) = turnsOfActivity n ++ [decide (n % 2 = 0)] := by
  rw [turnsOfActivity, List.range_succ, List.map_append, turnsOfActivity, List.map_singleton]

theorem getLast?_turnsOfActivity {n : Nat} (hn : 0 < n) :
    (turnsOfActivity n).getLast? = some (decide (n % 2 = 1)) := by
  obtain ⟨k, rfl⟩ := Nat.exists_eq_add_of_lt hn
  rw [Nat.zero_add, turnsOfActivity_succ, List.getLast?_concat]
  congr 2
  exact propext ⟨fun h => by omega, fun h => by omega⟩

namespace Session

theorem holds_of_mem_lastNotice {s : Session} : ∀ n ∈ s.lastNotice, n.Holds s := by
  intro n hn
  obtain ⟨m, hm, rfl⟩ := List.mem_map.mp hn
  exact Option.mem_toList.mp hm

theorem filterMap_value?_lastNotice (s : Session) : s.lastNotice.filterMap Notice.value? = [] := by
  rw [lastNotice, List.filterMap_map]
  exact List.filterMap_eq_nil_iff.mpr fun _ _ => rfl

/-- What observers are told of a move is true when they are told. -/
theorem Takes.holds {s : Session} {m : Move π} {turn : Turn π} (ht : Takes s m turn) :
    ∀ n ∈ turn.notices, n.Holds turn.session := by
  cases ht with
  | begins provider context user assistant _ _ =>
    have hlast : (s.begun user assistant).last? = some (.new assistant .assistant "") := by simp [last?, begun]
    intro n hn
    rcases List.mem_pair.mp hn with rfl | rfl
    · rfl
    · exact hlast
  | speaks text _ => exact holds_of_mem_lastNotice
  | settled m error _ _ => exact List.forall_mem_cons.mpr ⟨rfl, holds_of_mem_lastNotice⟩
  | cancelled _ => exact List.forall_mem_cons.mpr ⟨rfl, holds_of_mem_lastNotice⟩
  | rests m t _ _ _ _ _ _ => exact fun _ hn => absurd hn List.not_mem_nil

/-- The number of times that a session has become active or idle. -/
def changesOfActivity (s : Session) : Nat :=
  2 * s.generation - if s.isActive then 1 else 0

/-- A move that changes the activity is heard of, by the value that is due. -/
theorem Takes.values {s : Session} {m : Move π} {turn : Turn π} (ht : Takes s m turn)
    (hpos : s.isActive = true → 0 < s.generation) :
    turnsOfActivity s.changesOfActivity ++ turn.notices.filterMap Notice.value? =
      turnsOfActivity turn.session.changesOfActivity := by
  -- an active session becomes idle once
  have hends {t : Session} (ha : s.isActive = true) (hidle : t.isActive = false) (hg : t.generation = s.generation) :
      turnsOfActivity s.changesOfActivity ++ (Notice.active false :: t.lastNotice).filterMap Notice.value? =
        turnsOfActivity t.changesOfActivity := by
    have hg' := hpos ha
    have hbefore : s.changesOfActivity = 2 * s.generation - 1 := by rw [changesOfActivity, ha, if_pos rfl]
    have hafter : t.changesOfActivity = (2 * s.generation - 1) + 1 := by
      rw [changesOfActivity, hidle, hg, if_neg Bool.false_ne_true]
      omega
    have hodd : (2 * s.generation - 1) % 2 ≠ 0 := by omega
    have hvalues : (Notice.active false :: t.lastNotice).filterMap Notice.value? = [false] := by
      rw [List.filterMap_cons, filterMap_value?_lastNotice]
      rfl
    rw [hbefore, hafter, turnsOfActivity_succ, hvalues, decide_eq_false hodd]
  cases ht with
  | begins provider context user assistant _ ha =>
    have hbefore : s.changesOfActivity = 2 * s.generation := by rw [changesOfActivity, ha, if_neg Bool.false_ne_true]; rfl
    have hafter : (s.begun user assistant).changesOfActivity = 2 * s.generation + 1 := rfl
    rw [hbefore, hafter, turnsOfActivity_succ]
    simp [Notice.value?]
  | speaks text ha =>
    rw [filterMap_value?_lastNotice, List.append_nil]
    rfl
  | settled m error _ ha => exact hends ha rfl rfl
  | cancelled ha => exact hends ha rfl rfl
  | rests m t _ _ _ _ hact hgen =>
    have hsame : t.changesOfActivity = s.changesOfActivity := by rw [changesOfActivity, hact, hgen]; rfl
    rw [List.filterMap_nil, List.append_nil, hsame]

theorem values_heard (id : Uuid) (moves : List (Move π)) :
    ((new id).heard moves).filterMap Notice.value? = turnsOfActivity ((new id).run moves).changesOfActivity := by
  induction moves using List.reverseRecOn with
  | nil => rfl
  | append_singleton moves m ih =>
    have htold := ToldBy.run id moves
    rw [heard_concat, run_concat, List.filterMap_append, ih]
    exact (takes _ m).values fun ha => htold.generation ▸ htold.started ha

end Session

end Colloquy
