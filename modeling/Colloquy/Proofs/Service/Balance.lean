import Colloquy.Proofs.Service.Docket

/-!
# Who keeps a session active

A session is active as long as somebody has the response of its current generation in hand, unless a cancel has ended that
generation (`Docket.IsBalanced`). However a generation ends, the response is off the docket or its generation is among the
cancelled ones, and a generation that begins puts a response on the docket whose number was never used.
-/

namespace Colloquy

variable {π : Type}

/-- The session of a response and its generation. No two responses have the same. -/
def Pending.number (p : Pending π) : Uuid × Nat :=
  (p.session, p.generation)

/-- What is spent is the response that the move settles. -/
theorem Move.Spends.eq_of_mem {m : Move π} {key : SessionKey} {spent : Multiset (Pending π)} (hs : m.Spends key spent)
    {p : Pending π} (hp : p ∈ spent) : key = .listed p.session ∧ ∃ error, m.settlement? = some (p.generation, error) := by
  unfold Move.Spends at hs
  cases hm : m.settlement? with
  | none =>
    rw [hm] at hs
    subst hs
    cases Multiset.notMem_zero p hp
  | some r =>
    rw [hm] at hs
    obtain ⟨q, rfl, hkey, hg⟩ := hs
    obtain rfl := Multiset.mem_singleton.mp hp
    exact ⟨hkey, r.2, by rw [hg]⟩

theorem Move.Spends.eq_singleton {m : Move π} {key : SessionKey} {spent : Multiset (Pending π)} (hs : m.Spends key spent)
    {g : Nat} {error : Option Error} (hm : m.settlement? = some (g, error)) :
    ∃ p : Pending π, spent = {p} ∧ key = .listed p.session ∧ p.generation = g := by
  unfold Move.Spends at hs
  rwa [hm] at hs

theorem Move.touches_of_settlement? {m : Move π} {g : Nat} {error : Option Error} (hm : m.settlement? = some (g, error)) :
    m.touches g = true := by
  cases m <;> simp_all [Move.touches, Move.ends, Move.settlement?]

/-- Only a cancel cancels a generation, the one that is active. -/
theorem Session.cancelledBy_eq_some {s : Session} {m : Move π} {c : Uuid × Nat} (h : s.cancelledBy m = some c) :
    m = .cancel ∧ s.isActive = true ∧ c = (s.id, s.generation) := by
  cases m with
  | cancel =>
    simp only [Session.cancelledBy, Option.ite_none_right_eq_some, Option.some.injEq] at h
    exact ⟨rfl, h.1, h.2.symm⟩
  | _ => cases h

namespace Docket

variable {d : Docket π} {key : SessionKey} {m : Move π} {spent rest : Multiset (Pending π)}

/-- Somebody has the response of the current generation of a session in hand, and no cancel has ended that generation. -/
def IsOpen (d : Docket π) (s : Session) : Prop :=
  ∃ p ∈ d.outstanding, p.session = s.id ∧ p.generation = s.generation ∧ (p.session, p.generation) ∉ d.cancelled

/-- The session of a response that was issued is listed, and its history begins with what the response was asked. -/
theorem IsRecord.exists_beginsWith (h : d.IsRecord) {p : Pending π} (hp : p ∈ d.issued) :
    ∃ s, d.service.directory.get? p.session = some s ∧ s.isNull = false ∧ s.BeginsWith p := by
  obtain ⟨s, hs⟩ := Option.isSome_iff_exists.mp (h.listed p hp)
  have hnull := h.isNull hs
  obtain ⟨moves, rfl, hissued⟩ := h.played p.session s hs
  have hmem : p ∈ (Session.new p.session).handedOut moves := by
    rw [← hissued]
    exact List.mem_filter.mpr ⟨hp, decide_eq_true rfl⟩
  exact ⟨_, hs, hnull, Session.beginsWith_run _ _ p hmem⟩

/-- What a move starts has the number after the current generation of its session. -/
theorem IsRecord.generation_of_startedBy (h : d.IsRecord) {p : Pending π}
    (hp : d.service.directory.startedBy key m = some p) :
    ∃ s, d.service.directory.get? p.session = some s ∧ p.generation = s.generation + 1 := by
  obtain ⟨-, s, hs, hstarted⟩ := h.of_startedBy hp
  exact ⟨s, hs, ((s.takes m).generation_eq.2 p hstarted).2⟩

/-- Whoever accounts for the responses of a service: none was issued twice, only what was issued is outstanding, a cancel ended
no generation of the future, and a session is active just as long as it is open. -/
structure IsBalanced (d : Docket π) : Prop where
  record : d.IsRecord
  distinct : (d.issued.map Pending.number).Nodup
  outstanding : d.outstanding ≤ (d.issued : Multiset (Pending π))
  cancelled : ∀ c ∈ d.cancelled, ∃ s, d.service.directory.get? c.1 = some s ∧ c.2 ≤ s.generation
  active : ∀ s ∈ d.service.directory.sessions, s.isActive = true ↔ d.IsOpen s

/-- Only what was issued is outstanding. -/
theorem IsBalanced.mem_issued (h : d.IsBalanced) {p : Pending π} (hp : p ∈ d.outstanding) : p ∈ d.issued :=
  Multiset.mem_coe.mp (Multiset.mem_of_le h.outstanding hp)

/-- The generation of a response that is no longer outstanding is not the active one. -/
theorem IsBalanced.owns_eq_false (h : d.IsBalanced) {p : Pending π} (hp : p ∈ d.issued) (hout : p ∉ d.outstanding)
    {s : Session} (hs : d.service.directory.get? p.session = some s) : s.owns p.generation = false := by
  by_contra ho
  obtain ⟨ha, hg⟩ := (Session.owns_iff s _).mp (by simpa using ho)
  obtain ⟨q, hq, hid, hgeneration, -⟩ := (h.active s (Directory.mem_of_get? hs)).mp ha
  -- no two responses have one number, so that it would be this one that is outstanding
  have hnumber : q.number = p.number := by
    rw [Pending.number, Pending.number, hid, hgeneration, hg, Directory.id_of_get? hs]
  have heq : q = p := List.inj_on_of_nodup_map h.distinct (h.mem_issued hq) hp hnumber
  exact hout (heq ▸ hq)

/-- A change that leaves all responses as they are. -/
theorem IsBalanced.of_same (h : d.IsBalanced) {service : Service π} (hr : ({ d with service } : Docket π).IsRecord)
    (hget : ∀ id s, d.service.directory.get? id = some s → service.directory.get? id = some s)
    (hactive : ∀ s ∈ service.directory.sessions, s ∈ d.service.directory.sessions ∨ s.isActive = false ∧ s.generation = 0) :
    ({ d with service } : Docket π).IsBalanced := by
  refine ⟨hr, h.distinct, h.outstanding, ?_, ?_⟩
  · intro c hc
    obtain ⟨s, hs, hle⟩ := h.cancelled c hc
    exact ⟨s, hget _ s hs, hle⟩
  · intro s hs
    rcases hactive s hs with hs | ⟨hidle, hzero⟩
    · exact h.active s hs
    · -- a new session has no generation, and every response has one
      refine ⟨fun ha => absurd ha (by simp [hidle]), fun ⟨p, hp, _, hg, _⟩ => ?_⟩
      obtain ⟨_, -, -, hbegins⟩ := h.record.exists_beginsWith (h.mem_issued hp)
      have hpos := hbegins.numbered
      omega

/-! ## One move -/

theorem mem_outstanding_moved {p : Pending π} :
    p ∈ (d.moved key m rest).outstanding ↔ d.service.directory.startedBy key m = some p ∨ p ∈ rest := by
  simp [moved]

theorem mem_cancelled_moved {c : Uuid × Nat} :
    c ∈ (d.moved key m rest).cancelled ↔
      c ∈ d.cancelled ∨ ∃ s, d.service.directory.session? key = some s ∧ s.cancelledBy m = some c := by
  simp [moved, Option.bind_eq_some_iff]

/-- A move of one session leaves another one as open as it was. -/
theorem isOpen_moved_of_ne (h : d.IsRecord) (ho : d.outstanding = spent + rest) (hs : m.Spends key spent) {x : Session}
    (hne : key ≠ .listed x.id) : (d.moved key m rest).IsOpen x ↔ d.IsOpen x := by
  have hmem {p : Pending π} (hx : p.session = x.id) : p ∈ (d.moved key m rest).outstanding ↔ p ∈ d.outstanding := by
    rw [mem_outstanding_moved, ho, Multiset.mem_add]
    refine or_congr_left' fun _ => iff_of_false (fun hp => ?_) fun hp => ?_
    · exact hne (hx ▸ (h.of_startedBy hp).1)
    · exact hne (hx ▸ (hs.eq_of_mem hp).1)
  have hcancelled {p : Pending π} (hx : p.session = x.id) :
      (p.session, p.generation) ∈ (d.moved key m rest).cancelled ↔ (p.session, p.generation) ∈ d.cancelled := by
    rw [mem_cancelled_moved, or_iff_left]
    rintro ⟨s, hsession, hc⟩
    obtain ⟨-, ha, hc⟩ := Session.cancelledBy_eq_some hc
    have hkey := h.listed_of_isActive hsession ha
    have hps : p.session = s.id := congrArg Prod.fst hc
    exact hne (by rw [hkey, ← hx, hps])
  refine exists_congr fun p => ?_
  constructor
  · rintro ⟨hp, hx, hg, hc⟩
    exact ⟨(hmem hx).mp hp, hx, hg, fun h => hc ((hcancelled hx).mpr h)⟩
  · rintro ⟨hp, hx, hg, hc⟩
    exact ⟨(hmem hx).mpr hp, hx, hg, fun h => hc ((hcancelled hx).mp h)⟩

theorem isOpen_moved_iff {s : Session} (hs : d.service.directory.session? key = some s) (x : Session) :
    (d.moved key m rest).IsOpen x ↔ ∃ p, ((s.take m).started = some p ∨ p ∈ rest) ∧ p.session = x.id ∧
      p.generation = x.generation ∧ (p.session, p.generation) ∉ d.cancelled ∧
      s.cancelledBy m ≠ some (p.session, p.generation) := by
  refine exists_congr fun p => ?_
  rw [mem_outstanding_moved, mem_cancelled_moved, Directory.startedBy, hs, Option.bind_some, not_or]
  simp only [Option.some.injEq, exists_eq_left', ne_eq]

/-- A response that is outstanding beside others has a number of its own. -/
theorem IsBalanced.number_ne (h : d.IsBalanced) {p q : Pending π} (ho : d.outstanding = {p} + rest) (hq : q ∈ rest) :
    q.number ≠ p.number := by
  have hnodup : (d.outstanding.map Pending.number).Nodup :=
    Multiset.nodup_of_le (Multiset.map_le_map h.outstanding) (Multiset.coe_nodup.mpr h.distinct)
  rw [ho, Multiset.map_add, Multiset.map_singleton, Multiset.singleton_add, Multiset.nodup_cons] at hnodup
  exact fun he => hnodup.1 (he ▸ Multiset.mem_map_of_mem _ hq)

/-- A move that neither ends nor begins the generation of its session leaves it as open as it was. -/
theorem IsBalanced.isActive_iff_of_kept (h : d.IsBalanced) (ho : d.outstanding = spent + rest) {s t : Session}
    (hget : d.service.directory.get? s.id = some s) (hspent : ∀ p ∈ spent, s.owns p.generation = false)
    (hid : t.id = s.id) (hactive : t.isActive = s.isActive) (hgeneration : t.generation = s.generation) :
    t.isActive = true ↔ ∃ p ∈ rest, p.session = t.id ∧ p.generation = t.generation ∧
      (p.session, p.generation) ∉ d.cancelled := by
  rw [hid, hactive, hgeneration, h.active s (Directory.mem_of_get? hget)]
  constructor
  · intro hopen
    have ha := (h.active s (Directory.mem_of_get? hget)).mpr hopen
    obtain ⟨p, hp, hps, hg, hc⟩ := hopen
    rcases Multiset.mem_add.mp (ho ▸ hp) with hp | hp
    · have hnot := hspent p hp
      rw [hg, (Session.owns_iff s _).mpr ⟨ha, rfl⟩] at hnot
      cases hnot
    · exact ⟨p, hp, hps, hg, hc⟩
  · rintro ⟨p, hp, hps, hg, hc⟩
    exact ⟨p, ho ▸ Multiset.mem_add.mpr (.inr hp), hps, hg, hc⟩

/-- The session that takes a move is active after it just as long as it is open. -/
theorem IsBalanced.isActive_take_iff (h : d.IsBalanced) (ho : d.outstanding = spent + rest) {s : Session}
    (hs : m.Spends (.listed s.id) spent) (hget : d.service.directory.get? s.id = some s) :
    (s.take m).session.isActive = true ↔ (d.moved (.listed s.id) m rest).IsOpen (s.take m).session := by
  have ht := s.takes m
  have hsession : d.service.directory.session? (.listed s.id) = some s := hget
  rw [isOpen_moved_iff hsession]
  generalize s.take m = turn at ht
  cases ht with
  | begins provider context user assistant _ _ =>
    -- no cancel has ended a generation that is only beginning
    refine iff_of_true rfl ⟨_, .inl rfl, rfl, rfl, fun hc => ?_, nofun⟩
    obtain ⟨t, ht, hle⟩ := h.cancelled _ hc
    rw [hget] at ht
    obtain rfl := Option.some.inj ht
    exact absurd hle (Nat.not_succ_le_self _)
  | speaks text ha =>
    obtain rfl : spent = 0 := hs
    refine (h.isActive_iff_of_kept ho hget (fun _ => nofun) rfl rfl rfl).trans ?_
    simp [Session.cancelledBy]
  | settled m error hm ha =>
    -- the response that is spent was the only one of this generation
    refine iff_of_false Bool.false_ne_true ?_
    rintro ⟨q, hq, hid, hg, -⟩
    obtain ⟨p, rfl, hkey, hp⟩ := hs.eq_singleton hm
    refine h.number_ne ho (hq.resolve_left nofun) ?_
    rw [Pending.number, Pending.number, hid, hg, hp, ← SessionKey.listed.inj hkey]
    rfl
  | cancelled ha =>
    refine iff_of_false Bool.false_ne_true ?_
    rintro ⟨q, -, hid, hg, -, hc⟩
    rw [hid, hg, Session.cancelledBy, if_pos ha] at hc
    exact hc rfl
  | rests m t hu hid _ _ hact hgen =>
    have hspent : ∀ p ∈ spent, s.owns p.generation = false := fun p hp => by
      obtain ⟨-, error, hm⟩ := hs.eq_of_mem hp
      exact hu p.generation (Move.touches_of_settlement? hm)
    have hnone : s.cancelledBy m = none := by
      refine Option.eq_none_iff_forall_ne_some.mpr fun c hc => ?_
      obtain ⟨rfl, ha, -⟩ := Session.cancelledBy_eq_some hc
      have hnot := hu s.generation rfl
      rw [(Session.owns_iff s _).mpr ⟨ha, rfl⟩] at hnot
      cases hnot
    refine (h.isActive_iff_of_kept ho hget hspent hid hact hgen).trans ?_
    simp [hnone]

/-- What a move starts has a number that no response had before. -/
theorem IsBalanced.number_startedBy (h : d.IsBalanced) {p : Pending π} (hp : d.service.directory.startedBy key m = some p) :
    p.number ∉ d.issued.map Pending.number := by
  intro hmem
  obtain ⟨q, hq, hqp⟩ := List.mem_map.mp hmem
  obtain ⟨s, hs, hg⟩ := h.record.generation_of_startedBy hp
  obtain ⟨t, ht, -, hbegins⟩ := h.record.exists_beginsWith hq
  obtain ⟨hsession, hgeneration⟩ := Prod.mk.inj hqp
  rw [hsession, hs] at ht
  obtain rfl := Option.some.inj ht
  have hle := hbegins.generation
  omega

/-- No move takes a session away or turns its generations back. -/
theorem exists_get?_moved (key : SessionKey) (m : Move π) (rest : Multiset (Pending π)) {s : Session} {id : Uuid}
    (hs : d.service.directory.get? id = some s) :
    ∃ t, (d.moved key m rest).service.directory.get? id = some t ∧ s.generation ≤ t.generation := by
  rw [Docket.moved, get?_moved, hs]
  split
  · exact ⟨_, rfl, by rw [(s.takes m).generation_eq.1]; exact Nat.le_add_right _ _⟩
  · exact ⟨s, rfl, Nat.le_refl _⟩

theorem IsBalanced.moved (h : d.IsBalanced) (ho : d.outstanding = spent + rest) (hs : m.Spends key spent) :
    (d.moved key m rest).IsBalanced := by
  refine ⟨h.record.moved key m rest, ?_, ?_, ?_, ?_⟩
  · rw [Docket.moved, List.map_append, List.nodup_append]
    refine ⟨h.distinct, ?_, ?_⟩
    · cases d.service.directory.startedBy key m <;> simp
    · intro c hc e he
      obtain ⟨p, hp, rfl⟩ := List.mem_map.mp he
      exact fun heq => h.number_startedBy (Option.mem_toList.mp hp) (heq ▸ hc)
  · rw [Docket.moved, ← Multiset.coe_add, add_comm (d.issued : Multiset (Pending π))]
    exact add_le_add_right ((ho ▸ Multiset.le_add_left rest spent).trans h.outstanding) _
  · intro c hc
    rcases mem_cancelled_moved.mp hc with hc | ⟨s, hsession, hc⟩
    · obtain ⟨s, hget, hle⟩ := h.cancelled c hc
      obtain ⟨t, ht, hst⟩ := exists_get?_moved key m rest hget
      exact ⟨t, ht, hle.trans hst⟩
    · obtain ⟨-, ha, rfl⟩ := Session.cancelledBy_eq_some hc
      obtain rfl := h.record.listed_of_isActive hsession ha
      exact exists_get?_moved _ _ rest hsession
  · intro x hx
    rcases Directory.mem_sessions_change hx with ⟨hx, hne⟩ | ⟨s, rfl, hget, rfl⟩
    · rw [isOpen_moved_of_ne h.record ho hs hne]
      exact h.active x hx
    · exact h.isActive_take_iff ho hs hget

/-- Every change keeps the balance. -/
theorem Changes.isBalanced {e : Docket π} (hc : d.Changes e) (h : d.IsBalanced) : e.IsBalanced := by
  have hr := hc.isRecord h.record
  cases hc with
  | replaces roster => exact h.of_same hr (fun _ _ hs => hs) fun _ hs => .inl hs
  | moves key m spent rest ho hs => exact h.moved ho hs
  | adds id =>
    refine h.of_same hr (fun j s hs => ?_) fun s hs => ?_
    · rw [Directory.get?_add, hs]
      rfl
    · rcases List.mem_append.mp hs with hs | hs
      · exact .inl hs
      · exact .inr (List.mem_singleton.mp hs ▸ ⟨rfl, rfl⟩)
  | selects target directory hd =>
    obtain rfl := Directory.select_eq hd
    exact h.of_same hr (fun _ _ hs => hs) fun _ hs => .inl hs

theorem IsReached.isBalanced (h : d.IsReached) : d.IsBalanced :=
  h.keeps (fun _ _ => Changes.isBalanced)
    ⟨IsReached.isRecord (.refl _), List.nodup_nil, le_refl _, fun _ hc => absurd hc List.not_mem_nil,
      fun _ hs => absurd hs List.not_mem_nil⟩

end Docket

end Colloquy
