import Colloquy.Proofs.Service.Acts
import Colloquy.Proofs.Service.Sent

/-!
# What is done to a directory

The sessions of a service are changed in deeds: one is made, one is selected or none, or one takes a move. What a deed does, and what is
announced of it, is said by `Directory.effect_does`. Where sessions are made under identifiers that are new, a directory as it should be
goes on as it should (`Directory.IsSound.continues`): sessions come to those that there are and stay, and what is selected is there.
-/

namespace Colloquy

variable {π : Type}

/-- What is done to the sessions of a service in one piece: one is made, one is selected or none, or one takes a move. -/
inductive Deed (π : Type) where
  | opens (id : Uuid)
  | selects (target : Option Uuid)
  | moves (key : SessionKey) (m : Move π)

namespace Deed

/-- The act that does the same. -/
def act : Deed π → Act π
  | opens id => .opens id
  | selects target => .selects target
  | moves key m => .moves key m

/-- The identifier under which a session is made. -/
def made? : Deed π → Option Uuid
  | opens id => some id
  | _ => none

/-- The identifiers under which sessions are made, in their order. -/
def made (deeds : List (Deed π)) : List Uuid :=
  deeds.filterMap made?

theorem made_cons (a : Deed π) (deeds : List (Deed π)) : made (a :: deeds) = a.made?.toList ++ made deeds := by
  rw [made, List.filterMap_cons]
  cases a.made? <;> rfl

theorem made_append (deeds more : List (Deed π)) : made (deeds ++ more) = made deeds ++ made more :=
  List.filterMap_append

/-- Deeds that somebody does, in their order, and between them those of others, as they may do them. -/
inductive Among (may : Deed π → Prop) : (own all : List (Deed π)) → Prop where
  | nil : Among may [] []
  | own (a : Deed π) {own all : List (Deed π)} (h : Among may own all) : Among may (a :: own) (a :: all)
  | other {a : Deed π} (ha : may a) {own all : List (Deed π)} (h : Among may own all) : Among may own (a :: all)

variable {may : Deed π → Prop} {own all own' all' : List (Deed π)}

theorem Among.append (h : Among may own all) (h' : Among may own' all') : Among may (own ++ own') (all ++ all') := by
  induction h with
  | nil => exact h'
  | own a _ ih => exact .own a ih
  | other ha _ ih => exact .other ha ih

theorem Among.of_others (h : ∀ a ∈ all, may a) : Among may [] all := by
  induction all with
  | nil => exact .nil
  | cons a rest ih => exact .other (h a List.mem_cons_self) (ih fun b hb => h b (List.mem_cons_of_mem a hb))

theorem Among.cons_of_others (a : Deed π) (h : ∀ b ∈ all, may b) : Among may [a] (a :: all) :=
  .own a (.of_others h)

end Deed

/-- The session that is announced to be made. -/
def Announcement.created? : Announcement → Option Uuid
  | .sessionCreated id => some id
  | _ => none

namespace Directory

/-- The sessions after a deed. A session that is not there is not selected. -/
def does (d : Directory) : Deed π → Directory
  | .opens id => d.add id
  | .selects target => (d.select target).toOption.getD d
  | .moves key m => d.moved key m

/-- What is announced of a deed, with the sessions as they are then. -/
def tells (d : Directory) : Deed π → List (Announcement × Directory)
  | .opens id => [(.sessionCreated id, d.add id)]
  | .selects target => (d.select target).toOption.toList.map fun e => (.sessionSelected e.currentKey, e)
  | .moves _ _ => []

/-- The sessions after some deeds. -/
def doesAll (d : Directory) (deeds : List (Deed π)) : Directory :=
  deeds.foldl does d

/-- What is announced of some deeds. -/
def tellsAll (d : Directory) : List (Deed π) → List (Announcement × Directory)
  | [] => []
  | a :: rest => d.tells a ++ (d.does a).tellsAll rest

theorem doesAll_append (d : Directory) (deeds more : List (Deed π)) : d.doesAll (deeds ++ more) = (d.doesAll deeds).doesAll more :=
  List.foldl_append

theorem tellsAll_append (d : Directory) (deeds more : List (Deed π)) :
    d.tellsAll (deeds ++ more) = d.tellsAll deeds ++ (d.doesAll deeds).tellsAll more := by
  induction deeds generalizing d with
  | nil => rfl
  | cons a rest ih =>
    rw [List.cons_append, tellsAll, ih, tellsAll, List.append_assoc]
    rfl

/-- A deed is an act of its own. -/
theorem does_eq_acted (d : Directory) (a : Deed π) : d.does a = d.acted a.act := by
  cases a with
  | opens id => rfl
  | selects target =>
    have hacted : d.acted (Deed.selects target : Deed π).act = { d with current := d.focus.selects (.selects target : Act π) } := by
      simp [Deed.act, acted, arranged, Focus.makes?, Focus.movesOf, play]
    rw [hacted, Focus.selects, does]
    rcases d.exists_select target with ⟨hlisted, hselect⟩ | ⟨hlisted, e, hselect⟩
    · rw [hselect, hlisted]
      rfl
    · rw [hselect, hlisted]
      rfl
  | moves key m =>
    rw [Deed.act, acted, arranged_eq rfl rfl, Focus.movesOf, ← isSome_session?_iff]
    cases hs : d.session? key with
    | none => exact change_of_none hs _
    | some s => rfl

/-- The sessions that are made are those of which it is announced, in this order. -/
theorem created_tellsAll (d : Directory) (deeds : List (Deed π)) :
    (d.tellsAll deeds).filterMap (fun t => t.1.created?) = Deed.made deeds := by
  induction deeds generalizing d with
  | nil => rfl
  | cons a rest ih =>
    have htells : (d.tells a).filterMap (fun t => t.1.created?) = a.made?.toList := by
      cases a with
      | opens id => rfl
      | selects target => rw [tells]; cases (d.select target).toOption <;> rfl
      | moves key m => rfl
    rw [tellsAll, List.filterMap_append, htells, ih, Deed.made_cons]

theorem doesAll_eq_actedAll (d : Directory) (deeds : List (Deed π)) : d.doesAll deeds = d.actedAll (deeds.map Deed.act) := by
  induction deeds generalizing d with
  | nil => rfl
  | cons a rest ih => exact (ih (d.does a)).trans (congrArg (actedAll · _) (d.does_eq_acted a))

/-- Sessions are added at the end, and never removed. -/
theorem map_id_does (d : Directory) (a : Deed π) :
    (d.does a).sessions.map Session.id = d.sessions.map Session.id ++ a.made?.toList := by
  rw [does_eq_acted, acted, (map_id_play _ _).1, map_id_arranged]
  cases a <;> rfl

theorem map_id_doesAll (d : Directory) (deeds : List (Deed π)) :
    (d.doesAll deeds).sessions.map Session.id = d.sessions.map Session.id ++ Deed.made deeds := by
  induction deeds generalizing d with
  | nil => exact (List.append_nil _).symm
  | cons a rest ih =>
    rw [Deed.made_cons, ← List.append_assoc, ← map_id_does]
    exact ih (d.does a)

/-- What is there, or is made, is there afterwards. -/
theorem isSome_get?_doesAll {d : Directory} {deeds : List (Deed π)} {id : Uuid}
    (h : (d.get? id).isSome = true ∨ id ∈ Deed.made deeds) : ((d.doesAll deeds).get? id).isSome = true := by
  rw [isSome_get?_iff, map_id_doesAll, List.mem_append, ← isSome_get?_iff]
  exact h

/-- Identifiers that are all different and not in use are those of new sessions. -/
theorem IsSound.makesAnew {d : Directory} (h : d.IsSound) {deeds : List (Deed π)}
    (hnew : (d.sessions.map Session.id ++ Deed.made deeds).Nodup) : d.focus.MakesAnew (deeds.map Deed.act) := by
  induction deeds generalizing d with
  | nil => trivial
  | cons a rest ih =>
    have hfresh : ∀ id ∈ d.focus.makes? a.act, id ∉ d.focus.listed := by
      cases a with
      | opens id =>
        rintro _ ⟨⟩ hid
        exact (List.nodup_append.mp hnew).2.2 id hid id (List.mem_cons_self) rfl
      | selects target => exact nofun
      | moves key m => exact nofun
    refine ⟨hfresh, ?_⟩
    have hrest := h.acted a.act hfresh
    rw [← does_eq_acted] at hrest
    rw [Deed.made_cons, ← List.append_assoc, ← map_id_does] at hnew
    rw [← h.focus_acted, ← does_eq_acted]
    exact ih hrest hnew

theorem IsSound.doesAll {d : Directory} (h : d.IsSound) {deeds : List (Deed π)}
    (hnew : (d.sessions.map Session.id ++ Deed.made deeds).Nodup) : (d.doesAll deeds).IsSound := by
  rw [doesAll_eq_actedAll]
  exact (h.actedAll (h.makesAnew hnew)).1

/-- What is found under an identifier stays there, with the moves that it takes. -/
theorem exists_get?_does {d : Directory} {id : Uuid} {s : Session} (hs : d.get? id = some s) (a : Deed π) :
    ∃ moves : List (Move π), (d.does a).get? id = some (s.run moves) := by
  cases a with
  | opens new => exact ⟨[], by rw [does, get?_add, hs]; rfl⟩
  | selects target =>
    refine ⟨[], ?_⟩
    have hsame : ((d.select target).toOption.getD d).get? id = d.get? id := by
      cases hselect : d.select target with
      | error e => rfl
      | ok e => rw [select_eq hselect]; rfl
    rw [does, hsame, hs]
    rfl
  | moves key m =>
    rw [does, Docket.get?_moved, hs]
    split
    · exact ⟨[m], rfl⟩
    · exact ⟨[], rfl⟩

theorem exists_get?_doesAll {d : Directory} {id : Uuid} {s : Session} (hs : d.get? id = some s) (deeds : List (Deed π)) :
    ∃ moves : List (Move π), (d.doesAll deeds).get? id = some (s.run moves) := by
  induction deeds generalizing d s with
  | nil => exact ⟨[], hs⟩
  | cons a rest ih =>
    obtain ⟨first, hfirst⟩ := exists_get?_does hs a
    obtain ⟨later, hlater⟩ := ih hfirst
    exact ⟨first ++ later, by rw [Session.run_append]; exact hlater⟩

/-- What is made is found as a new session, with the moves that it takes. -/
theorem exists_get?_made {d : Directory} {deeds : List (Deed π)} (hnew : (d.sessions.map Session.id ++ Deed.made deeds).Nodup)
    {id : Uuid} (hid : id ∈ Deed.made deeds) :
    ∃ moves : List (Move π), (d.doesAll deeds).get? id = some ((Session.new id).run moves) := by
  induction deeds generalizing d with
  | nil => exact absurd hid List.not_mem_nil
  | cons a rest ih =>
    rw [Deed.made_cons] at hid hnew
    rcases List.mem_append.mp hid with hid | hid
    · have hmade : a = .opens id := by
        cases a with
        | opens new => rw [List.mem_singleton.mp hid]
        | selects target => exact absurd hid List.not_mem_nil
        | moves key m => exact absurd hid List.not_mem_nil
      subst hmade
      have hfresh : d.get? id = none := by
        rw [get?_eq_none_iff]
        intro hlisted
        exact (List.nodup_append.mp hnew).2.2 id hlisted id List.mem_cons_self rfl
      have hget : (d.does (.opens id : Deed π)).get? id = some (.new id) := by
        rw [does, get?_add, hfresh, if_pos rfl]
        rfl
      exact exists_get?_doesAll hget rest
    · rw [← List.append_assoc, ← map_id_does] at hnew
      exact ih hnew hid

/-! ## What is kept -/

/-- How a directory goes on with some deeds: its sessions are those that there were, and after them those that were made, no two with
one identifier. Each is found under its identifier, with all that it has become. If one is selected it is one of them, and it is the
current session. -/
structure Continues (d : Directory) (deeds : List (Deed π)) : Prop where
  ids : (d.doesAll deeds).sessions.map Session.id = d.sessions.map Session.id ++ Deed.made deeds
  distinct : ((d.doesAll deeds).sessions.map Session.id).Nodup
  same : ∀ id s, d.get? id = some s → ∃ moves : List (Move π), (d.doesAll deeds).get? id = some (s.run moves)
  new : ∀ id ∈ Deed.made deeds, ∃ moves : List (Move π), (d.doesAll deeds).get? id = some ((Session.new id).run moves)
  current : ∀ id, (d.doesAll deeds).current = some id → ∃ s ∈ (d.doesAll deeds).sessions, s.id = id ∧ s.isNull = false ∧
    (d.doesAll deeds).get? id = some s ∧ (d.doesAll deeds).currentSession = s

theorem IsSound.continues {d : Directory} (h : d.IsSound) {deeds : List (Deed π)}
    (hnew : (d.sessions.map Session.id ++ Deed.made deeds).Nodup) : d.Continues deeds := by
  have hsound := h.doesAll hnew
  refine ⟨d.map_id_doesAll deeds, hsound.distinct, fun id s hs => exists_get?_doesAll hs deeds,
    fun id hid => exists_get?_made hnew hid, ?_⟩
  intro id hcurrent
  obtain ⟨s, hs⟩ := Option.isSome_iff_exists.mp (((d.doesAll deeds).isSome_get?_iff id).mpr (hsound.current id hcurrent))
  exact ⟨s, mem_of_get? hs, id_of_get? hs, hsound.isNull_of_get? hs, hs, (currentSession_of_get? hcurrent hs).2⟩

/-- What a deed does to the sessions, and what is announced of it: a new session comes last and the selection stays, one announcement;
what is there is selected, with one announcement of the session that is the current one then; what is not there is refused, and
nothing is changed or announced; and a move leaves the sessions and the selection as they are. -/
inductive Effect (d : Directory) : Deed π → Directory → List (Announcement × Directory) → Prop where
  | opens (id : Uuid) {e : Directory} (hsessions : e.sessions = d.sessions ++ [.new id]) (hcurrent : e.current = d.current) :
      Effect d (.opens id) e [(.sessionCreated id, e)]
  | selects {target : Option Uuid} (hlisted : ∀ id ∈ target, (d.get? id).isSome = true) {e : Directory} {key : SessionKey}
      (hsessions : e.sessions = d.sessions) (hcurrent : e.current = target) (hkey : e.session? key = some e.currentSession) :
      Effect d (.selects target) e [(.sessionSelected key, e)]
  | refused {id : Uuid} (hnone : d.get? id = none) : Effect d (.selects (some id)) d []
  | moves (key : SessionKey) (m : Move π) {e : Directory} (hids : e.sessions.map Session.id = d.sessions.map Session.id)
      (hcurrent : e.current = d.current) : Effect d (.moves key m) e []

theorem effect_does (d : Directory) (a : Deed π) : d.Effect a (d.does a) (d.tells a) := by
  cases a with
  | opens id => exact .opens id rfl rfl
  | selects target =>
    cases hselect : d.select target with
    | ok e =>
      have he := select_eq hselect
      rw [does, tells, hselect]
      refine .selects ?_ (by rw [he]; rfl) (by rw [he]; rfl) (session?_currentKey _)
      rintro id rfl
      unfold select at hselect
      dsimp only at hselect
      split at hselect
      next hsome => exact hsome
      next => cases hselect
    | error error =>
      rw [does, tells, hselect]
      cases target with
      | none => cases hselect
      | some id =>
        refine .refused ?_
        unfold select at hselect
        dsimp only at hselect
        split at hselect
        · cases hselect
        next hnone => exact Option.not_isSome_iff_eq_none.mp hnone
  | moves key m =>
    obtain ⟨hids, hcurrent⟩ := d.map_id_moved key m
    exact .moves key m hids hcurrent

end Directory

/-! ## Deeds in a service -/

/-- A change of a service does one deed to its sessions, or none. -/
theorem Docket.Changes.exists_deeds {d e : Docket π} (h : d.Changes e) :
    ∃ deeds : List (Deed π), e.service.directory = d.service.directory.doesAll deeds := by
  cases h with
  | replaces roster => exact ⟨[], rfl⟩
  | moves key m spent rest _ _ => exact ⟨[.moves key m], rfl⟩
  | adds id => exact ⟨[.opens id], rfl⟩
  | selects target directory hd =>
    refine ⟨[.selects target], ?_⟩
    show directory = (d.service.directory.select target).toOption.getD d.service.directory
    rw [hd]
    rfl

theorem Docket.Leads.exists_deeds {d e : Docket π} (h : d.Leads e) :
    ∃ deeds : List (Deed π), e.service.directory = d.service.directory.doesAll deeds := by
  induction h with
  | refl => exact ⟨[], rfl⟩
  | tail _ hlast ih =>
    obtain ⟨deeds, hdeeds⟩ := ih
    obtain ⟨last, hlast⟩ := hlast.exists_deeds
    exact ⟨deeds ++ last, by rw [hlast, hdeeds, Directory.doesAll_append]⟩

end Colloquy
