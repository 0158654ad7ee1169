import Colloquy.Proofs.Service.Balance
import Colloquy.Proofs.Session.Shape

/-!
# Who is told to stop

A generation is told to stop by a cancel of its session while it is the active one there, or by somebody who has its response and
says so; by nothing else, and for ever. So, of all that was done to a service and to whatever session, what tells of the generations
that were told to stop is which generation was active in which session when that was cancelled (`Docket.IsReached.isStopped_iff`).
-/

namespace Colloquy

variable {π : Type}

namespace Session

/-- The generations that a move tells to stop. -/
def stoppedBy (s : Session) : Move π → List Nat
  | .cancel => if s.isActive then [s.generation] else []
  | .stop g => [g]
  | _ => []

@[simp] theorem withLast_stopped (s : Session) (change : Message → Message) : (s.withLast change).stopped = s.stopped := rfl

/-- A move adds to the generations that were told to stop, and takes none away. -/
theorem stopped_take (s : Session) (m : Move π) : (s.take m).session.stopped = s.stopped ++ s.stoppedBy m := by
  have hsettle (g : Nat) (error : Option Error) : (s.settle g error).1.stopped = s.stopped := by
    rw [settle]
    split
    · cases error with
      | none => rfl
      | some e => simp only [amendLast_eq_withLast, withLast_stopped]
    · rfl
  cases m with
  | start provider context user assistant =>
    rcases s.start_cases provider context with ⟨e, he⟩ | ⟨hn, ha, p, rfl⟩
    · simp only [take, he, stoppedBy, List.append_nil]
    · simp only [take, start_of_idle hn ha, begun, stoppedBy, List.append_nil]
  | delta g text =>
    simp only [take, applyDelta, stoppedBy, List.append_nil]
    split
    · simp only [amendLast_eq_withLast, withLast_stopped]
    · rfl
  | finish g result => simp only [take, stoppedBy, List.append_nil, hsettle]
  | drop g => simp only [take, stoppedBy, List.append_nil, hsettle]
  | cancel =>
    simp only [take, cancel, stoppedBy]
    split
    · rfl
    · rw [List.append_nil]
  | stop g => rfl
  | setTitle text =>
    simp only [take, setTitle, stoppedBy, List.append_nil]
    split <;> rfl
  | setSummary text =>
    simp only [take, setSummary, stoppedBy, List.append_nil]
    split <;> rfl
  | _ => simp [take, stoppedBy, setPrompt, setScrollTop]

/-- A move tells a generation to stop: a cancel the active one, and who has a response that one. -/
theorem mem_stoppedBy {s : Session} {m : Move π} {g : Nat} :
    g ∈ s.stoppedBy m ↔ m = .cancel ∧ s.owns g = true ∨ m = .stop g := by
  cases m with
  | cancel => cases ha : s.isActive <;> simp [stoppedBy, owns, ha, eq_comm (a := g)]
  | stop g' => simp [stoppedBy, eq_comm (a := g)]
  | _ => simp [stoppedBy]

theorem isStopped_iff_mem (s : Session) (g : Nat) : s.isStopped g = true ↔ g ∈ s.stopped :=
  List.contains_iff_mem

theorem isStopped_take {s : Session} {m : Move π} {g : Nat} :
    (s.take m).session.isStopped g = true ↔ s.isStopped g = true ∨ m = .cancel ∧ s.owns g = true ∨ m = .stop g := by
  rw [isStopped_iff_mem, isStopped_iff_mem, stopped_take, List.mem_append, mem_stoppedBy]

/-- Whoever was told to stop is told so for ever. -/
theorem isStopped_run {s : Session} {g : Nat} (h : s.isStopped g = true) (moves : List (Move π)) :
    (s.run moves).isStopped g = true := by
  induction moves generalizing s with
  | nil => exact h
  | cons m rest ih => exact ih (isStopped_take.mpr (.inl h))

/-- A cancel ends the active generation, so that a second one finds none. -/
theorem isActive_take_cancel (s : Session) : (s.take (.cancel : Move π)).session.isActive = false := by
  simp only [take, cancel]
  split
  · rfl
  next h => simpa using h

/-- What a move starts is the active generation then. -/
theorem Takes.owns_of_started {s : Session} {m : Move π} {turn : Turn π} (ht : Takes s m turn) {p : Pending π}
    (hp : turn.started = some p) : turn.session.owns p.generation = true := by
  cases ht with
  | begins provider context user assistant _ _ =>
    cases hp
    exact (owns_iff _ _).mpr ⟨rfl, rfl⟩
  | _ => cases hp

end Session

namespace Docket

variable {d e : Docket π} {id : Uuid}

/-- A move of the session of a key tells just those generations of that session to stop, and none of another one. -/
theorem exists_stopped_moved (d : Directory) (key : SessionKey) (m : Move π) {j : Uuid} {s : Session} (hs : d.get? j = some s) :
    ∃ t, (d.moved key m).get? j = some t ∧ t.stopped = s.stopped ++ if key = .listed j then s.stoppedBy m else [] := by
  rw [get?_moved, hs]
  split
  · exact ⟨_, rfl, s.stopped_take m⟩
  · exact ⟨s, rfl, (List.append_nil _).symm⟩

/-- What a change makes of one session: nothing, or it adds the session, or the session takes a move. -/
theorem Changes.get?_cases (hc : d.Changes e) {t : Session} (ht : e.service.directory.get? id = some t) :
    d.service.directory.get? id = some t ∨ d.service.directory.get? id = none ∧ t = .new id ∨
      ∃ s m spent rest, d.service.directory.get? id = some s ∧ t = (s.take m).session ∧ d.outstanding = spent + rest ∧
        m.Spends (.listed id) spent ∧ e = d.moved (.listed id) m rest := by
  cases hc with
  | replaces roster => exact .inl ht
  | moves key m spent rest ho hs =>
    rw [Docket.moved, get?_moved] at ht
    split at ht
    next hkey =>
      subst hkey
      obtain ⟨s, hget, rfl⟩ := Option.map_eq_some_iff.mp ht
      exact .inr (.inr ⟨s, m, spent, rest, hget, rfl, ho, hs, rfl⟩)
    next => exact .inl ht
  | adds new =>
    rw [Directory.get?_add] at ht
    cases hget : d.service.directory.get? id with
    | some s =>
      rw [hget] at ht
      exact .inl ht
    | none =>
      rw [hget, Option.none_or] at ht
      split at ht
      next h =>
        subst h
        exact .inr (.inl ⟨rfl, (Option.some.inj ht).symm⟩)
      next => cases ht
  | selects target directory hd =>
    obtain rfl := Directory.select_eq hd
    exact .inl ht

/-- A session that is listed stays so, and takes moves. -/
theorem Leads.exists_run (h : d.Leads e) {s : Session} (hs : d.service.directory.get? id = some s) :
    ∃ moves : List (Move π), e.service.directory.get? id = some (s.run moves) := by
  induction h with
  | refl => exact ⟨[], hs⟩
  | @tail e f _ hlast ih =>
    obtain ⟨moves, hget⟩ := ih
    cases hlast with
    | replaces roster => exact ⟨moves, hget⟩
    | moves key m spent rest _ _ =>
      rw [Docket.moved, get?_moved, hget]
      split
      · exact ⟨moves ++ [m], by rw [Session.run_concat]; rfl⟩
      · exact ⟨moves, rfl⟩
    | adds new =>
      rw [Directory.get?_add, hget]
      exact ⟨moves, rfl⟩
    | selects target directory hd =>
      obtain rfl := Directory.select_eq hd
      exact ⟨moves, hget⟩

/-- At some time a session took a move, as `P` says that it was then. -/
def Took (d : Docket π) (id : Uuid) (m : Move π) (P : Session → Prop) : Prop :=
  ∃ (f : Docket π) (s : Session) (spent rest : Multiset (Pending π)), f.IsReached ∧ f.service.directory.get? id = some s ∧
    P s ∧ f.outstanding = spent + rest ∧ m.Spends (.listed id) spent ∧ (f.moved (.listed id) m rest).Leads d

theorem Took.trans {m : Move π} {P : Session → Prop} (h : d.Took id m P) (hde : d.Leads e) : e.Took id m P := by
  obtain ⟨f, s, spent, rest, hf, hs, hP, ho, hm, hfd⟩ := h
  exact ⟨f, s, spent, rest, hf, hs, hP, ho, hm, hfd.trans hde⟩

/-- What became of a session since a move that it took. -/
theorem Took.exists_run {m : Move π} {P : Session → Prop} (h : d.Took id m P) {t : Session}
    (ht : d.service.directory.get? id = some t) : ∃ (s : Session) (moves : List (Move π)), P s ∧ t = (s.take m).session.run moves := by
  obtain ⟨f, s, spent, rest, -, hs, hP, -, -, hfd⟩ := h
  have hmoved : (f.moved (.listed id) m rest).service.directory.get? id = some (s.take m).session := by
    rw [Docket.moved, get?_moved, if_pos rfl, hs]
    rfl
  obtain ⟨moves, hget⟩ := hfd.exists_run hmoved
  rw [ht] at hget
  exact ⟨s, moves, hP, Option.some.inj hget⟩

/-- A move that a session takes now was taken at some time. -/
theorem Took.of_changes {m : Move π} {P : Session → Prop} (hd : d.IsReached) {s : Session} {spent rest : Multiset (Pending π)}
    (hs : d.service.directory.get? id = some s) (hP : P s) (ho : d.outstanding = spent + rest) (hm : m.Spends (.listed id) spent) :
    (d.moved (.listed id) m rest).Took id m P :=
  ⟨d, s, spent, rest, hd, hs, hP, ho, hm, .refl _⟩

/-- A generation of a session was told to stop just if it was the active one there at some cancel, or was named. -/
theorem IsReached.isStopped_iff (hd : d.IsReached) {s : Session} (hs : d.service.directory.get? id = some s) (g : Nat) :
    s.isStopped g = true ↔ d.Took id .cancel (fun t => t.owns g = true) ∨ d.Took id (.stop g) fun _ => True := by
  constructor
  · intro h
    induction hd generalizing s with
    | refl => cases hs
    | @tail d e hd hlast ih =>
      rcases hlast.get?_cases hs with hs | ⟨-, rfl⟩ | ⟨t, m, spent, rest, ht, rfl, ho, hm, rfl⟩
      · exact (ih hs h).imp (·.trans hlast.leads) (·.trans hlast.leads)
      · cases h
      · rcases Session.isStopped_take.mp h with h | ⟨rfl, howns⟩ | rfl
        · exact (ih ht h).imp (·.trans hlast.leads) (·.trans hlast.leads)
        · exact .inl (.of_changes hd ht howns ho hm)
        · exact .inr (.of_changes hd ht trivial ho hm)
  · rintro (h | h)
    · obtain ⟨t, moves, ht, rfl⟩ := h.exists_run hs
      exact Session.isStopped_run (Session.isStopped_take.mpr (.inr (.inl ⟨rfl, ht⟩))) moves
    · obtain ⟨t, moves, -, rfl⟩ := h.exists_run hs
      exact Session.isStopped_run (Session.isStopped_take.mpr (.inr (.inr rfl))) moves

/-- A move takes care that a response in somebody's hands is that of the active generation of its session, or was told to stop. -/
theorem IsBalanced.owns_or_isStopped_take (h : d.IsBalanced) {m : Move π} {spent rest : Multiset (Pending π)} {p : Pending π}
    (ho : d.outstanding = spent + rest) (hm : m.Spends (.listed p.session) spent) (hp : p ∈ rest) {s : Session}
    (hs : s.owns p.generation = true ∨ s.isStopped p.generation = true) :
    (s.take m).session.owns p.generation = true ∨ (s.take m).session.isStopped p.generation = true := by
  rcases hs with howns | hstopped
  · obtain ⟨ha, hg⟩ := (Session.owns_iff s _).mp howns
    have ht := s.takes m
    have hstop : m = .cancel → (s.take m).session.isStopped p.generation = true := fun hm =>
      Session.isStopped_take.mpr (.inr (.inl ⟨hm, howns⟩))
    generalize s.take m = turn at ht hstop
    cases ht with
    | begins provider context user assistant _ hidle => rw [ha] at hidle; cases hidle
    | speaks text _ => exact .inl howns
    | settled m error hsettles _ =>
      -- the response that is spent was the only one of this generation
      obtain ⟨q, rfl, hkey, hq⟩ := hm.eq_singleton hsettles
      have hnumber : p.number = q.number := by
        rw [Pending.number, Pending.number, ← SessionKey.listed.inj hkey, hq, hg]
      exact absurd hnumber (h.number_ne ho hp)
    | cancelled _ => exact .inr (hstop rfl)
    | rests m t _ _ _ _ hact hgen => exact .inl ((Session.owns_iff t _).mpr ⟨hact.trans ha, hgen.trans hg⟩)
  · exact .inr (Session.isStopped_take.mpr (.inl hstopped))

/-- A response in somebody's hands is that of the active generation of its session, or was told to stop. -/
theorem IsReached.owns_or_isStopped (hd : d.IsReached) {p : Pending π} (hp : p ∈ d.outstanding) {s : Session}
    (hs : d.service.directory.get? p.session = some s) :
    s.owns p.generation = true ∨ s.isStopped p.generation = true := by
  induction hd generalizing s with
  | refl => exact absurd hp (Multiset.notMem_zero p)
  | @tail d e hd hlast ih =>
    have hbalanced : d.IsBalanced := IsReached.isBalanced hd
    cases hlast with
    | replaces roster => exact ih hp hs
    | moves key m spent rest ho hm =>
      rw [Docket.moved, get?_moved] at hs
      rcases mem_outstanding_moved.mp hp with hstarted | hrest
      · obtain ⟨rfl, t, ht, hstarted⟩ := hbalanced.record.of_startedBy hstarted
        rw [if_pos rfl, ht] at hs
        obtain rfl := Option.some.inj hs
        exact .inl ((t.takes m).owns_of_started hstarted)
      · have hbefore : p ∈ d.outstanding := ho ▸ Multiset.mem_add.mpr (.inr hrest)
        split at hs
        next hkey =>
          subst hkey
          obtain ⟨t, ht, rfl⟩ := Option.map_eq_some_iff.mp hs
          exact hbalanced.owns_or_isStopped_take ho hm hrest (ih hbefore ht)
        next => exact ih hbefore hs
    | adds new =>
      have hlisted := hbalanced.record.listed p (hbalanced.mem_issued hp)
      obtain ⟨t, ht⟩ := Option.isSome_iff_exists.mp hlisted
      rw [Directory.get?_add, ht, Option.some_or] at hs
      exact ih hp (ht.trans hs)
    | selects target directory hselect =>
      obtain rfl := Directory.select_eq hselect
      exact ih hp hs

end Docket

end Colloquy
