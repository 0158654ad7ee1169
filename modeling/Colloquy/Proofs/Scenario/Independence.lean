import Colloquy.Proofs.Scenario.Drafts
import Colloquy.Proofs.Service.Acting

/-!
# Sessions that do not interfere

However the operations of several sessions are interleaved, and whichever session is selected meanwhile, each session is in the end
what it would be if nothing had been done but what concerns it (`sessions_do_not_interfere`).
-/

namespace Colloquy

variable {π : Type}

/-- What is started by the moves of a session is what is started of it. -/
theorem filter_started (key : SessionKey) {turns : List (SessionKey × Turn π)}
    (hturns : ∀ t ∈ turns, ∀ p ∈ t.2.started, t.1 = .listed p.session) :
    (turns.filterMap fun t => t.2.started).filter (fun p => .listed p.session = key) =
      ((turns.filter fun t => t.1 = key).map Prod.snd).filterMap Turn.started := by
  induction turns with
  | nil => rfl
  | cons t rest ih =>
    obtain ⟨ht, hrest⟩ := List.forall_mem_cons.mp hturns
    cases hstarted : t.2.started with
    | none => by_cases hk : t.1 = key <;> simp [hstarted, hk, ih hrest]
    | some p =>
      have hp := ht p hstarted
      by_cases hk : t.1 = key <;> simp [hstarted, hk, ← hp, ih hrest]

open Service Scenario

/-- Sessions do not interfere, in every host whose listeners leave the service alone, which has an assistant, and which draws for
new sessions identifiers that are not in use. Whatever is done to its service, in whatever order, `acts'` says what was done with
the choices that the service and its host made, and which moves concern a session can be told from that alone (`Focus.concerning`):
what is asked of the session itself, what its responses do, and what is asked of the service while it is the current one; for the
session that a send has to make, to write the draft of the null session and then to start. For the null session and for every other
one that there is in the end, four things hold: (1) it is what these moves make of it alone, (2) what is told of it, in this order,
is what they tell, (3) the responses that were started of it are those that they start; (4) and if it were another session, with other
identifiers and times, all would be the same but for these. The sessions that there are, which of them is selected, and the draft of
the null session are what can be told from the acts. -/
theorem sessions_do_not_interfere {W τ : Type} {host : Host π (StateM W)} {view : W → Outlook π τ} {note : τ → Note π → τ}
    (h : host.IsHeard view note) {w : W} (hq : (view w).isQuiet) (hs : (view w).service.directory.IsSound)
    (hn : (view w).service.roster.entries ≠ []) (acts : List (Act π)) (hfresh : DrawsAnew host view acts w) :
    let before := (view w).service.directory
    let started := ((actAll host acts).run w).1
    let after := view ((actAll host acts).run w).2
    ∃ acts' notes, acts.Forall₂ Act.IsLike acts' ∧ after.told = notes.foldl note (view w).told ∧
      (∀ key, (before.focus.afterAll acts').holds key = true →
        let alone := (before.session? key).getD key.blank
        let moves := before.focus.concerning key acts'
        after.service.directory.session? key = some (alone.run moves) ∧
        noticesFor key notes = alone.heard moves ∧
        started.filter (fun p => .listed p.session = key) = alone.handedOut moves ∧
        ∀ (other : Session) (moves' : List (Move π)), other.unstamped = alone.unstamped → moves'.Forall₂ Move.IsLike moves →
          (other.run moves').unstamped = (alone.run moves).unstamped ∧
          (other.heard moves').map Notice.unstamped = (noticesFor key notes).map Notice.unstamped) ∧
      after.service.directory.focus = before.focus.afterAll acts' ∧ after.service.directory.IsSound := by
  intro before started after
  obtain ⟨acts', hlike, hnew, hbecomes⟩ := exists_becomes_actAll h hq rfl hs acts hfresh
  rw [Act.carriedOut_of_ne_nil hn] at hlike
  obtain ⟨notes, htold, hnotices⟩ := hbecomes.told
  obtain ⟨hsound, hfocus⟩ := hs.actedAll hnew
  have hdirectory : after.service.directory = before.actedAll acts' := hbecomes.directory
  refine ⟨acts', notes, hlike, htold, fun key hkey => ?_, by rw [hdirectory]; exact hfocus, by rw [hdirectory]; exact hsound⟩
  obtain ⟨hrun, hturns⟩ := hs.projects hnew hkey
  have hheard : noticesFor key notes = ((before.session? key).getD key.blank).heard (before.focus.concerning key acts') := by
    rw [noticesFor, hnotices, noticesFor_turns, hturns, Session.heard]
  refine ⟨by rw [hdirectory]; exact hrun, hheard, ?_, fun other moves' hother hmoves => ?_⟩
  · have hstarted : started = _ := hbecomes.started
    rw [hstarted, filter_started key (hs.key_of_started_acts hnew), hturns, Session.handedOut]
  · rw [hheard]
    exact Session.run_alike hother hmoves

/-- A host with one assistant, which has no session yet. -/
@[irreducible] def vacant : HostState :=
  leave (fun _ => .unreachable) [.register "echo" "Echo" (.builtIn (.echo 0))] {}

/-- A session is sent to, and another one after it; the first one is still answered, and then a cancel ends the second. -/
def crossing : List (Act Backend) :=
  let first := HostState.uuidOf 0
  [.writes "Hi", .sends default default none default default, .selects none, .writes "Ho",
    .sends default default none default default, .moves (.listed first) (.delta 1 "Hi!"), .cancels, .moves (.listed first) (.drop 1)]

/-- What is heard of the host in the end. -/
@[irreducible] def crossed : Outlook Backend HostState :=
  hearing ((actAll (host fun _ _ => pure .ok) crossing).run vacant).2

/-- The cancel ends the response of the session that is current, and the other one has been answered. -/
theorem crossing_sessions :
    DrawsAnew (host fun _ _ => pure .ok) hearing crossing vacant ∧
      (crossed.service.directory.get? (HostState.uuidOf 0)).map (fun s => (s.history.map Message.content, s.isStopped 1)) =
        some (["Hi", "Hi!"], false) ∧
      (crossed.service.directory.get? (HostState.uuidOf 3)).map (fun s => (s.history.map Message.content, s.isStopped 1)) =
        some (["Ho", ""], true) ∧
      ∃ acts, ∃ notes : List (Note Backend), crossing.Forall₂ Act.IsLike acts ∧
        crossed.service.directory.get? (HostState.uuidOf 0) =
          some ((Session.new (HostState.uuidOf 0)).run (Focus.concerning (.listed (HostState.uuidOf 0)) {} acts)) ∧
        noticesFor (.listed (HostState.uuidOf 0)) notes =
          (Session.new (HostState.uuidOf 0)).heard (Focus.concerning (.listed (HostState.uuidOf 0)) {} acts) := by
  have hquiet : vacant.hooks.isEmpty = true := by decide +kernel
  have hdirectory : (hearing vacant).service.directory = {} := by decide +kernel
  have hentries : vacant.service.roster.entries.isEmpty = false := by decide +kernel
  have hfresh : DrawsAnew (host fun _ _ => pure .ok) hearing crossing vacant := by
    refine ⟨?_, ?_, ?_, ?_, ?_, ?_, ?_, ?_, trivial⟩ <;> decide +kernel
  have hlisted : crossed.service.directory.focus.holds (.listed (HostState.uuidOf 0)) = true := by decide +kernel
  refine ⟨hfresh, by decide +kernel, by decide +kernel, ?_⟩
  have hcrossed : hearing ((actAll (host fun _ _ => pure .ok) crossing).run vacant).2 = crossed := by rw [crossed]
  -- from here on the host is one like any other, lest it acts again
  generalize vacant = v at hquiet hdirectory hentries hfresh hcrossed
  generalize crossing = asked at hfresh hcrossed ⊢
  have hall := sessions_do_not_interfere (host_isHeard fun _ _ => pure .ok) (List.isEmpty_iff.mp hquiet)
    (hdirectory ▸ Directory.isSound_new)
    (fun hnone => absurd (List.isEmpty_iff.mpr hnone) (Bool.eq_false_iff.mp hentries)) asked hfresh
  rw [hcrossed, hdirectory] at hall
  obtain ⟨acts, notes, hlike, -, heach, hfocus, -⟩ := hall
  rw [hfocus] at hlisted
  obtain ⟨hrun, hheard, -, -⟩ := heach (.listed (HostState.uuidOf 0)) hlisted
  exact ⟨acts, notes, hlike, hrun, hheard⟩

end Colloquy
