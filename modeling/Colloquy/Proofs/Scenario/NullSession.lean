import Colloquy.Proofs.Scenario.Independence
import Colloquy.Proofs.Scenario.Order

/-!
# The null session stays apart

Where no session is selected the null session stands in: it takes a draft, and nothing else comes of it, whatever is done to it or to
the service around it (`null_session_stays_apart`).
-/

namespace Colloquy

variable {π : Type}

/-! ## In a session -/

namespace Session.IsVacant

variable {s : Session} (h : s.IsVacant)

include h

/-- No move of the null session is heard of, and none starts anything. -/
theorem silent (moves : List (Move π)) : s.heard moves = [] ∧ s.handedOut moves = [] := by
  induction moves generalizing s with
  | nil => exact ⟨rfl, rfl⟩
  | cons m rest ih =>
    obtain ⟨hm, hstarted, hnotices⟩ := h.take m
    obtain ⟨hheard, hhanded⟩ := ih hm
    rw [heard] at hheard ⊢
    rw [handedOut] at hhanded ⊢
    rw [turns, List.flatMap_cons, hnotices, hheard, List.filterMap_cons, hstarted, hhanded]
    exact ⟨rfl, rfl⟩

end Session.IsVacant

/-! ## In a service -/

namespace Docket

variable {d e : Docket π}

/-- Only a session that is there is selected. -/
theorem Changes.isListed (hc : d.Changes e) (h : ∀ id ∈ d.service.directory.current, (d.service.directory.get? id).isSome = true) :
    ∀ id ∈ e.service.directory.current, (e.service.directory.get? id).isSome = true := by
  cases hc with
  | replaces roster => exact h
  | moves key m spent rest _ _ =>
    obtain ⟨hids, hcurrent⟩ := d.service.directory.map_id_moved key m
    intro id hid
    rw [Directory.isSome_get?_iff, moved, hids, ← Directory.isSome_get?_iff]
    exact h id (hcurrent ▸ hid)
  | adds id =>
    intro j hj
    rw [Directory.get?_add, Option.isSome_or, h j hj, Bool.true_or]
  | selects target directory hd =>
    intro id hid
    obtain rfl := Directory.select_eq hd
    obtain rfl : target = some id := hid
    rw [Directory.select] at hd
    split at hd
    next hsome => exact hsome
    next => cases hd

theorem IsReached.isListed (h : d.IsReached) :
    ∀ id ∈ d.service.directory.current, (d.service.directory.get? id).isSome = true :=
  h.keeps (P := fun d => ∀ id ∈ d.service.directory.current, (d.service.directory.get? id).isSome = true)
    (fun _ _ => Changes.isListed) fun _ hid => absurd hid (Option.not_mem_none _)

theorem IsReached.isNull_of_mem (h : d.IsReached) {s : Session} (hs : s ∈ d.service.directory.sessions) : s.isNull = false := by
  obtain ⟨id, moves, rfl⟩ := h.isPlayed s hs
  exact Session.isNull_run id moves

/-- The null session is the current one just where none is selected. -/
theorem IsReached.isNull_currentSession_iff (h : d.IsReached) :
    d.service.directory.currentSession.isNull = true ↔ d.service.directory.current = none := by
  rw [Directory.currentSession]
  cases hc : d.service.directory.current with
  | none => simp [h.isVacant.isNull]
  | some id =>
    obtain ⟨s, hs⟩ := Option.isSome_iff_exists.mp (h.isListed id hc)
    simp [hs, h.isNull_of_mem (Directory.mem_of_get? hs)]

/-- A change of the draft of the null session is made by writing it or by taking it. -/
theorem Changes.exists_moved_null (hc : d.Changes e) (h : d.service.directory.null.IsVacant)
    (hne : e.service.directory.null.prompt ≠ d.service.directory.null.prompt) :
    ∃ m rest, e = d.moved .null m rest ∧
      (m = .setPrompt e.service.directory.null.prompt ∨ m = .takePrompt ∧ e.service.directory.null.prompt = "") := by
  cases hc with
  | replaces roster => exact absurd rfl hne
  | moves key m spent rest _ _ =>
    cases key with
    | listed id => exact absurd (congrArg Session.prompt (d.service.directory.null_change id _)) hne
    | null =>
      refine ⟨m, rest, rfl, ?_⟩
      have hprompt : (d.moved .null m rest).service.directory.null.prompt = _ := h.prompt_take m
      rw [hprompt] at hne ⊢
      cases m with
      | setPrompt text => exact .inl rfl
      | takePrompt => exact .inr ⟨rfl, rfl⟩
      | _ => exact absurd rfl hne
  | adds id => exact absurd rfl hne
  | selects target directory hd =>
    obtain rfl := Directory.select_eq hd
    exact absurd rfl hne

end Docket

/-! ## In a host -/

namespace Scenario

/-- The error of whoever starts a response in the null session. -/
def nullError : Error :=
  .session "Null chat session cannot provide chat responses"

/-- What is seen of the null session between two steps is a draft, and where its view was scrolled to. -/
def SessionView.IsOfNull (v : SessionView) : Prop :=
  v = .of { Session.null with prompt := v.prompt, scrollTop := v.scrollTop }

theorem SessionView.isOfNull_of {s : Session} (h : s.IsVacant) : (SessionView.of s).IsOfNull := by
  rw [h]
  rfl

/-- Whatever is played, no event and no snapshot shows the null session as a conversation. -/
theorem playFrom_of_isOrderly (network : HttpRequest → Reply) (steps : List Step) (before : Option Snapshot) {w : HostState}
    (h : w.IsOrderly) : ∀ r ∈ playFrom network steps before w,
      (∀ e ∈ r.events, e.isOfNull = false) ∧ ∀ now ∈ r.change, now.null.IsOfNull := by
  induction steps generalizing before w with
  | nil => exact fun r hr => absurd hr List.not_mem_nil
  | cons step rest ih =>
    have hafter := h.perform network step
    rw [playFrom]
    generalize (Scenario.perform network depthLimit true step).run { w with events := [] } = taken at hafter
    obtain ⟨answer, v⟩ := taken
    intro r hr
    rcases List.mem_cons.mp hr with rfl | hr
    · refine ⟨fun e he => hafter.silent e (List.mem_reverse.mp he), fun now hnow => ?_⟩
      dsimp only at hnow
      split at hnow
      · cases hnow
      · obtain rfl := Option.some.inj hnow
        exact SessionView.isOfNull_of hafter.null
    · exact ih _ hafter r hr

/-- The null session refuses, and nothing comes of it but that stamps were drawn. -/
theorem run_startResponse_null (again : Taker) {w : HostState} (h : w.service.directory.null.IsVacant)
    (provider : Option Backend) (context : Option Json) :
    (Service.startResponse (host again) .null provider context).run w = (.error nullError, { w with drawn := w.drawn + 2 }) := by
  have hrefuses (user assistant : Stamp) :
      ((outlook w).service.directory.session .null).start provider context user assistant = .error nullError :=
    h.start_eq provider context user assistant
  exact Service.run_startResponse_of_error (host_isSeen again) hrefuses

/-- To start in the null session fails, whoever is to answer, and whatever was to come next. -/
theorem run_startIn_null (again : Taker) {w : HostState} (h : w.service.directory.null.IsVacant) (hw : w.holdsService = true)
    (choice : Choice) (context : Option Json) {next : Except Error (Pending Backend) → Play Answer}
    (hn : ∀ v e, ((next (.error e)).run v).1 = .failed e) :
    ((startIn again .null choice context next).run w).1 = .failed nullError := by
  have hbegin (v : HostState) (hv : v.service.directory.null.IsVacant) (provider : Option Backend) :
      ((do next (← Service.startResponse (host again) .null provider context) : Play Answer).run v).1 = .failed nullError := by
    rw [StateT.run_bind, run_startResponse_null again hv]
    exact hn _ _
  cases choice with
  | nobody => exact hbegin w h none
  | given backend => exact hbegin w h (some backend)
  | selected =>
    refine (congrArg Prod.fst (run_onService hw)).trans ?_
    -- the selection is looked for, and healed, while the service is kept
    let v : HostState := { w with
      underWay := w.underWay + 1
      service := { w.service with roster := w.service.roster.heal } }
    exact hbegin v h w.service.roster.selectedProvider?

end Scenario

open Scenario

/-- The null session stays apart, in four parts, for everything that may be done, in whatever order.
1. Whatever is done to the null session itself, it shows nothing, tells nobody anything, starts nothing, and refuses to start with an
   error of the session, whether somebody is to answer or not. Its draft is changed by being written or taken only.
2. Whatever is done to a service, by whomever and from wherever, its null session is such a session; it is not listed, not found under
   any identifier, and, as no session has its identifier, not selected by that either, which is an error of the session; it is the
   current one just where none is selected. A change of the service that changes its draft writes or takes it.
3. In every host whose listeners leave the service alone, which draws for new sessions identifiers that are not in use, nothing is told
   of the null session, whatever is done to the service; and its draft can be told from what was done (`Focus.drafts`): it is what was
   written to it, or to the current session while none was selected, and it is empty when it was taken, or when a send that came to
   something had to make a session.
4. In the host that plays scenarios, whatever it, its listeners and its scripts do, within whatever steps, no event and no snapshot ever
   shows the null session as a conversation, and a start in it fails, alone or with an answer. -/
theorem null_session_stays_apart :
    (∀ moves : List (Move π),
      let s := Session.null.run moves
      s.IsBlank ∧ Session.null.heard moves = [] ∧ Session.null.handedOut moves = [] ∧
      (∀ (provider : Option π) (context : Option Json) (user assistant : Stamp),
        s.start provider context user assistant = .error nullError) ∧
      ∀ m : Move π, (s.take m).session.prompt = m.redraft s.prompt) ∧
    (∀ d : Docket π, d.IsReached →
      let directory := d.service.directory
      directory.null.IsBlank ∧
      (∀ (provider : Option π) (context : Option Json) (user assistant : Stamp),
        directory.null.start provider context user assistant = .error nullError) ∧
      (∀ m : Move π, (directory.null.take m).notices = [] ∧ (directory.null.take m).started = none) ∧
      (∀ s ∈ directory.sessions, s.isNull = false) ∧
      (∀ id s, directory.get? id = some s → s.isNull = false) ∧
      ((∀ s ∈ directory.sessions, s.id ≠ .nil) → directory.get? .nil = none ∧
        directory.select (some .nil) = .error (.session ("Unknown chat session: " ++ Uuid.nil.toText))) ∧
      (directory.currentSession.isNull = true ↔ directory.current = none) ∧
      ∀ e, d.Changes e → e.service.directory.null.prompt ≠ directory.null.prompt → ∃ m rest, e = d.moved .null m rest ∧
        (m = .setPrompt e.service.directory.null.prompt ∨ m = .takePrompt ∧ e.service.directory.null.prompt = "")) ∧
    (∀ (W τ : Type) (host : Host π (StateM W)) (view : W → Outlook π τ) (note : τ → Note π → τ), host.IsHeard view note →
      ∀ w, (view w).isQuiet → (view w).service.directory.IsSound → ∀ acts, Service.DrawsAnew host view acts w →
        let after := view ((Service.actAll host acts).run w).2
        ∃ acts' notes, (Act.carriedOut (view w).service.roster acts).Forall₂ Act.IsLike acts' ∧
          after.told = notes.foldl note (view w).told ∧ Service.noticesFor .null notes = [] ∧
          after.service.directory.null.IsBlank ∧
          after.service.directory.null.prompt = ((view w).service.directory.focus.afterAll acts').draft) ∧
    ∀ (network : HttpRequest → Reply) (contexts : Option (List (Option Json))) (steps : List Step),
      (∀ r ∈ play network contexts steps, (∀ e ∈ r.events, e.isOfNull = false) ∧ ∀ now ∈ r.change, now.null.IsOfNull) ∧
      let w := leave network steps { contexts }
      (∀ again provider context,
        (Service.startResponse (host again) .null provider context).run w = (.error nullError, { w with drawn := w.drawn + 2 })) ∧
      (w.holdsService = true → ∀ depth patient choice context,
        ((perform network (depth + 1) patient (.start .null choice context)).run w).1 = .failed nullError ∧
        ((perform network (depth + 1) patient (.provide .null choice context)).run w).1 = .failed nullError) := by
  refine ⟨?_, ?_, ?_, ?_⟩
  · intro moves s
    have hs : s.IsVacant := Session.null_isVacant.run moves
    obtain ⟨hheard, hhanded⟩ := Session.null_isVacant.silent moves
    exact ⟨hs.isBlank, hheard, hhanded, hs.start_eq, hs.prompt_take⟩
  · intro d hd directory
    have hv := hd.isVacant
    refine ⟨hv.isBlank, hv.start_eq, fun m => ⟨(hv.take m).2.2, (hv.take m).2.1⟩, fun s => hd.isNull_of_mem,
      fun id s hs => hd.isNull_of_mem (Directory.mem_of_get? hs), fun hnil => ?_, hd.isNull_currentSession_iff,
      fun e he => he.exists_moved_null hv⟩
    have hnone : directory.get? .nil = none := List.find?_eq_none.mpr fun s hs => by simpa using hnil s hs
    exact ⟨hnone, by rw [Directory.select, hnone]; rfl⟩
  · intro W τ host view note h w hq hs acts hfresh after
    obtain ⟨acts', hlike, hnew, hbecomes⟩ := Service.exists_becomes_actAll h hq rfl hs acts hfresh
    obtain ⟨notes, htold, hnotices⟩ := hbecomes.told
    obtain ⟨hsound, hfocus⟩ := hs.actedAll hnew
    have hdirectory : after.service.directory = (view w).service.directory.actedAll acts' := hbecomes.directory
    refine ⟨acts', notes, hlike, htold, ?_, hdirectory ▸ hsound.null.isBlank, ?_⟩
    · have hnull : ((view w).service.directory.focus.afterAll acts').holds .null = true := rfl
      obtain ⟨-, hturns⟩ := hs.projects hnew hnull
      have hsilent := (hs.null.silent ((view w).service.directory.focus.concerning .null acts')).1
      rw [Service.noticesFor, hnotices, Service.noticesFor_turns, hturns]
      exact hsilent
    · rw [hdirectory, ← hfocus]
      rfl
  · intro network contexts steps
    refine ⟨playFrom_of_isOrderly network steps none (isOrderly_new contexts), ?_⟩
    intro w
    have hw : w.IsOrderly := isOrderly_leave network contexts steps
    refine ⟨fun again => run_startResponse_null again hw.null, ?_⟩
    · intro hheld depth patient choice context
      refine ⟨run_startIn_null _ hw.null hheld choice context fun _ _ => rfl, ?_⟩
      refine (congrArg Prod.fst (run_onService hheld)).trans ?_
      exact run_startIn_null _ (w := { w with underWay := w.underWay + 1 }) hw.null hheld choice context fun _ _ => rfl

/-- A docket whose null session has a draft, with one session, which is not selected. -/
def undecided : Docket Unit :=
  Docket.moved { service.directory := .add {} (.ofNat 1) } .null (.setPrompt "Hi") 0

theorem undecided_isReached : undecided.IsReached :=
  Docket.IsReached.moved (Docket.Changes.adds (.ofNat 1)).leads .null (.setPrompt "Hi") (zero_add 0).symm rfl

/-- The null session is written to, named, started and cancelled. -/
def onNull : List Step :=
  [.setPrompt "Hi", .setTitle .null "Title", .start .null .nobody none, .cancelSession .null]

/-- The draft of the null session is written, sent through a new session, and written again when none is selected any more. -/
def redrafted : List (Act Backend) :=
  [.writes "Hi", .sends default default none default default, .selects none, .writes "Ho"]

/-- The null session cannot be found, the start in it fails, nobody hears of it, and in the end it has the draft that was written last. -/
theorem null_session_holds_a_draft :
    undecided.service.directory.get? .nil = none ∧ undecided.service.directory.currentSession.prompt = "Hi" ∧
      undecided.service.directory.currentSession.isNull = true ∧
      (play (fun _ => .unreachable) none onNull).map Record.answer = [.ok, .ok, .failed nullError, .ok] ∧
      (∀ r ∈ play (fun _ => .unreachable) none onNull, ∀ e ∈ r.events, e.isOfNull = false) ∧
      ∃ acts, redrafted.Forall₂ Act.IsLike acts ∧ (Focus.afterAll {} acts).draft = "Ho" ∧
        (hearing ((Service.actAll (host fun _ _ => pure .ok) redrafted).run vacant).2).service.directory.null.prompt =
          (Focus.afterAll {} acts).draft := by
  have hquiet : vacant.hooks.isEmpty = true := by decide +kernel
  have hdirectory : (hearing vacant).service.directory = {} := by decide +kernel
  have hentries : vacant.service.roster.entries.isEmpty = false := by decide +kernel
  have hfresh : Service.DrawsAnew (host fun _ _ => pure .ok) hearing redrafted vacant := by
    refine ⟨?_, ?_, ?_, ?_, trivial⟩ <;> decide +kernel
  have hanswers : (play (fun _ => .unreachable) none onNull).map Record.answer = [.ok, .ok, .failed nullError, .ok] := by
    decide +kernel
  obtain ⟨-, hdocket, hacts, hplay⟩ := null_session_stays_apart (π := Backend)
  obtain ⟨-, hdocket', -, -⟩ := null_session_stays_apart (π := Unit)
  obtain ⟨-, -, -, -, -, hnil, hcurrent, -⟩ := hdocket' _ undecided_isReached
  refine ⟨(hnil (by decide)).1, rfl, hcurrent.mpr rfl, hanswers, fun r hr => ((hplay _ _ _).1 r hr).1, ?_⟩
  -- from here on the host is one like any other, lest it acts again
  generalize vacant = v at hquiet hdirectory hentries hfresh
  obtain ⟨acts, notes, hlike, -, -, -, hdraft⟩ := hacts _ _ _ _ _ (host_isHeard fun _ _ => pure .ok) v (List.isEmpty_iff.mp hquiet)
    (hdirectory ▸ Directory.isSound_new) redrafted hfresh
  have hn : (hearing v).service.roster.entries ≠ [] := fun hnone =>
    absurd (List.isEmpty_iff.mpr hnone) (Bool.eq_false_iff.mp hentries)
  rw [Act.carriedOut_of_ne_nil hn] at hlike
  rw [hdirectory] at hdraft
  refine ⟨acts, hlike, ?_, hdraft⟩
  rcases hlike with _ | ⟨⟨⟩, _ | ⟨⟨⟩, _ | ⟨⟨⟩, _ | ⟨⟨⟩, ⟨⟩⟩⟩⟩⟩
  rfl

end Colloquy
