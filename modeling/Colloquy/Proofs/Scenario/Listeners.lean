import Colloquy.Proofs.Scenario.Reach
import Colloquy.Proofs.Service.Assembly
import Colloquy.Proofs.Session.Shape

/-!
# What listeners believe in the end

A listener that starts a new generation as soon as the session is idle does so before all others are told that it is; when they are
told, and when the message of the old generation is shown for the last time, the new one is already under way
(`restarts_mislead`). So a listener can rely on what it heard last only if nobody is called before it who calls back, or if
callbacks at most cancel (`first_listeners_know`).
-/

namespace Colloquy

variable {π L : Type}

open Scenario

/-! ## Who is right in the end -/

/-- A session that has taken moves since it was new has a newest message, once a generation was started. -/
theorem Session.isSome_last?_run (id : Uuid) (moves : List (Move π)) (hpos : 0 < ((new id).run moves).generation) :
    ((new id).run moves).last?.isSome = true := by
  have h := ToldBy.run id moves
  have hgen := h.generation
  have hlen := h.length
  rw [last?, List.getLast?_isSome]
  intro hnil
  rw [hnil, List.length_nil] at hlen
  omega

namespace Assembly

variable {a : Assembly π L} {id : Uuid}

/-- What is done with a new session goes as moves of the session go, with those that its listeners may make. -/
theorem exists_plays (may : L → Move π → Prop) (hreacts : ∀ l n heard, (a.reacts l n heard).Within id (may l))
    (hmay : ∀ l m, m.edits = true → may l m) (depth : Nat) {w : Scene π L} (hs : w.service.directory.get? id = some (.new id))
    (hheard : w.heard = []) (outer : Conduct π) :
    ∃ s, ((outer.run (a.host id depth)).run w).2.service.directory.get? id = some s ∧
      (a.gallery id may).crowd.Plays (.moves fun _ => True) ⟨.new id, []⟩
        ⟨s, ((outer.run (a.host id depth)).run w).2.heard⟩ := by
  have hattended : (a.host id depth).IsAttended (a.gallery id may) fun _ => True :=
    host_isAttended hreacts hmay depth fun _ _ => trivial
  obtain ⟨s, hget, hplays⟩ := Conduct.goes_run hattended (Conduct.within_of_forall (fun _ => trivial) outer) w _ hs
  refine ⟨s, hget, ?_⟩
  have hnone : (a.gallery id may).heard w = [] := hheard
  rwa [hnone] at hplays

/-- Moves that some listeners may make, where all others may do what they like. -/
def mayOf (who : L → Prop) (may : Move π → Prop) (l : L) (m : Move π) : Prop :=
  who l → may m

theorem may_of_mayOf {who : L → Prop} {may : Move π → Prop} {k : L} (hk : who k) {m : Move π}
    (hm : (a.gallery id (mayOf who may)).crowd.may k m) : may m :=
  hm hk

theorem within_mayOf {who : L → Prop} {may : Move π → Prop}
    (h : ∀ k, who k → ∀ n heard, (a.reacts k n heard).Within id may) (l : L) (n : Notice) (heard : List (L × Notice)) :
    (a.reacts l n heard).Within id (mayOf who may l) := by
  by_cases hl : who l
  · exact (h l hl n heard).mono fun m hm _ => hm
  · exact Conduct.within_of_forall (fun m hk => absurd hk hl) _

end Assembly

/-- What listeners believe in the end, for any listeners that may use the service in any way when they are called, within any number of
calls inside one another, and for anything that is done with a session after it was made.
Once a generation was started in the session, and whatever was done has come to its end:
1. Whoever listens to the activity, and is called before all those that call back, or is the first of them, has heard last whether the
   session is active.
2. Whoever listens to the messages, where those who listen to the activity do not call back, and is called before all those that call
   back, or is the first of them, has heard the newest message last.
3. Where callbacks change no message and start no generation, so that they cancel at most, all who listen to the messages have heard
   the newest message last. -/
theorem first_listeners_know [DecidableEq L] (a : Assembly π L) (id : Uuid) (depth : Nat) (w : Scene π L)
    (outer : Conduct π) (hs : w.service.directory.get? id = some (.new id)) (hheard : w.heard = []) :
    ∃ s, ((outer.run (a.host id depth)).run w).2.service.directory.get? id = some s ∧
      (0 < s.generation →
        s.last?.isSome = true ∧
        (∀ pre l post, a.activity = pre ++ l :: post → l ∉ post → (∀ k ∈ pre, a.LeavesAlone id k) →
          Hall.lastValue ⟨s, ((outer.run (a.host id depth)).run w).2.heard⟩ l = some s.isActive) ∧
        (∀ pre l post, a.response = pre ++ l :: post → l ∉ post → (∀ k ∈ a.activity ++ pre, a.LeavesAlone id k) →
          Hall.lastMessage ⟨s, ((outer.run (a.host id depth)).run w).2.heard⟩ l = s.last?) ∧
        ((∀ k ∈ a.activity ++ a.response, a.KeepsMessages id k) → ∀ l ∈ a.response,
          Hall.lastMessage ⟨s, ((outer.run (a.host id depth)).run w).2.heard⟩ l = s.last?)) := by
  obtain ⟨s, hget, hplays⟩ := Assembly.exists_plays (a := a) (fun _ _ => True)
    (fun _ _ _ => Conduct.within_of_forall (fun _ => trivial) _) (fun _ _ _ => trivial) depth hs hheard outer
  refine ⟨s, hget, fun hpos => ?_⟩
  have hlast : s.last?.isSome = true := by
    obtain ⟨moves, rfl⟩ := hplays.exists_run
    exact Session.isSome_last?_run id moves hpos
  obtain ⟨x, hx⟩ := Option.isSome_iff_exists.mp hlast
  -- the same run, seen with the moves that some of the listeners may make
  have hruns {who : L → Prop} {may : Move π → Prop} (hedits : ∀ m, m.edits = true → may m)
      (hwho : ∀ k, who k → ∀ n heard, (a.reacts k n heard).Within id may) :
      (a.gallery id (Assembly.mayOf who may)).crowd.Plays (.moves fun _ => True) ⟨.new id, []⟩
        ⟨s, ((outer.run (a.host id depth)).run w).2.heard⟩ := by
    obtain ⟨t, ht, hruns⟩ :=
      Assembly.exists_plays (Assembly.mayOf who may) (Assembly.within_mayOf hwho) (fun _ m hm _ => hedits m hm) depth hs hheard outer
    obtain rfl := Option.some.inj (hget.symm.trans ht)
    exact hruns
  have hactivity (l : L) : (⟨.new id, []⟩ : Hall L).KnowsActivity l := fun h => absurd h (Nat.lt_irrefl 0)
  have hmessage (l : L) : (⟨.new id, []⟩ : Hall L).KnowsMessage l := fun h => absurd h (Nat.lt_irrefl 0)
  refine ⟨hlast, ?_, ?_, ?_⟩
  · intro pre l post hsplit hpost hpre
    have hplays := hruns (fun _ hm => hm) hpre
    exact hplays.knowsActivity_of_shows ⟨pre, post, hsplit, fun k hk m hm => Assembly.may_of_mayOf hk hm, hpost⟩ (hactivity l) hpos
  · intro pre l post hsplit hpost hpre
    have hplays := hruns (fun _ hm => hm) hpre
    rw [hx]
    exact hplays.knowsMessage_of_shows (fun k hk m hm => Assembly.may_of_mayOf (List.mem_append_left _ hk) hm)
      ⟨pre, post, hsplit, fun k hk m hm => Assembly.may_of_mayOf (List.mem_append_right _ hk) hm, hpost⟩ (hmessage l) hpos x hx
  · intro hkeeps l hl
    have hplays := hruns (fun _ hm => Move.keepsLast_of_edits hm) hkeeps
    rw [hx]
    exact hplays.knowsMessage_of_keepsLast (fun k hk m hm => Assembly.may_of_mayOf hk hm) hl (hmessage l) hpos x hx

/-- Two listeners to the activity, of which the first starts a generation whenever the session is idle, and one to the messages. -/
def restarting : Assembly Unit Bool where
  activity := [true, false]
  response := [true]
  reacts l n _ := if l = true ∧ n = .active false then .start (.listed .nil) (some ()) none fun _ => .done else .done

/-- A generation is started and cancelled. -/
def startedAndCancelled : Conduct Unit :=
  .start (.listed .nil) (some ()) none fun _ => .cancelSession (.listed .nil) .done

/-- These listeners when a generation was started and cancelled in a new session. -/
@[irreducible] def restartedScene : Scene Unit Bool :=
  ((startedAndCancelled.run (restarting.host .nil 1)).run { service.directory.sessions := [.new .nil] }).2

/-- The first listener to the activity, though it calls back itself, has heard last that the session is active, as it is. -/
theorem restarting_first_knows :
    ∃ s, restartedScene.service.directory.get? .nil = some s ∧ s.isActive = true ∧
      Hall.lastValue ⟨s, restartedScene.heard⟩ true = some s.isActive := by
  have hafter : (restartedScene.service.directory.get? .nil).map (fun s => (s.generation, s.isActive)) = some (2, true) := by
    decide +kernel
  have hknow := first_listeners_know restarting .nil 1 { service.directory.sessions := [.new .nil] } startedAndCancelled
    rfl rfl
  rw [← restartedScene] at hknow
  obtain ⟨s, hs, hknows⟩ := hknow
  rw [hs] at hafter
  obtain ⟨hgen, hactive⟩ := Prod.mk.inj (Option.some.inj hafter)
  obtain ⟨-, hactivity, -⟩ := hknows (hgen ▸ Nat.two_pos)
  exact ⟨s, hs, hactive, hactivity [] true [false] rfl (by decide) nofun⟩

/-! ## Who may be misled -/

/-- A host whose listener sends again as soon as a generation, which has said a word and failed, is over. -/
def startedFromCallback : HostState :=
  leave (fun _ => .unreachable)
    [.register "f" "F" (.script "script" [.emit "x", .fail (.api (.server 500 "boom"))]), .setPrompt "q",
      .hook .active 2 none "" .send, .submit] {}

/-- What was heard last need not be so: the last message shown is that of the generation that failed, though a second one is under way,
with a message of its own; and whoever listens to the activity after somebody who calls back has heard last that the session is
idle. -/
theorem restarts_mislead :
    (startedFromCallback.service.directory.sessions.map fun s =>
        (s.isNull, s.generation, s.isActive, s.history.map Message.content)) =
      [(false, 2, true, ["q", "x", "", ""])] ∧
    (startedFromCallback.events.findSome? fun
      | .response s i m _ => some (s, i, m.content)
      | _ => none) = some (.nth 0, some 1, "x") ∧
    (restartedScene.service.directory.sessions.map fun s => (s.isNull, s.generation, s.isActive)) = [(false, 2, true)] ∧
    (Hall.lastValue ⟨.null, restartedScene.heard⟩ false) = some false := by
  decide +kernel

end Colloquy
