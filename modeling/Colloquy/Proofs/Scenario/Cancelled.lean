import Colloquy.Proofs.Scenario.Interrupted
import Colloquy.Proofs.Scenario.Observed
import Colloquy.Proofs.Session.Shape

/-!
# What a cancel reaches

A cancel tells one generation to stop, the one that it finds active in its session, and whoever answers this generation hears of
it (`cancel_reaches_its_generation`): before anything is said, if the cancel came first, and otherwise with the piece of text that
somebody answered by the cancel.
-/

namespace Colloquy

variable {π : Type}

open Scenario

/-- What a cancel reaches, in seven parts.
1. A move of a session tells just these generations of just this session to stop: a cancel the one that is active, if any is, and
   whoever has a response that one. A cancel of an idle session, and so a second one, leaves it as it is, and nobody hears of it.
2. So, whatever was done to a service, in whatever order and from wherever: a generation of a session was told to stop just if it was
   the active one there when that session was cancelled at some time, or was named at some time by who had its response. No two
   responses are of the same generation of the same session.
3. In a host, a cancel of an idle session changes nothing whatever, and no listener is called.
4. A built-in provider that is told to stop before it is called sends nothing, and succeeds. One that is told to stop with the `n`th
   piece of text succeeds, with the first `n` of the pieces that it would have said for this reply, however the reply goes on.
5. In every host, whatever its listeners do in return: a response whose session is cancelled after it was started, and which is then
   answered by a built-in provider, is answered well, and nothing whatever changes by it, whatever the network would reply.
6. A response of a built-in provider that is told to stop by a listener when its `n`th piece of text is heard is answered well, and
   that is the end: what the listeners made of this piece is what is left.
7. A listener that is set to cancel the session with the `n`th message of it that it is shown stops the response with the `n`th
   piece. To what the message held before, just the first `n` pieces have been added then, and no error marks it; the generation has
   ended, and is the only one that was told to stop; and all else that the service holds is as it was. -/
theorem cancel_reaches_its_generation :
    ((∀ (d : Directory) (key : SessionKey) (m : Move π) (id : Uuid) (s : Session), d.get? id = some s →
        ∃ t, (d.moved key m).get? id = some t ∧ t.stopped = s.stopped ++ if key = .listed id then s.stoppedBy m else []) ∧
      ∀ s : Session, (s.isActive = false → s.take (.cancel : Move π) = { session := s }) ∧
        (s.take (.cancel : Move π)).session.isActive = false) ∧
    (∀ d : Docket π, d.IsReached →
      (∀ (id : Uuid) (s : Session) (g : Nat), d.service.directory.get? id = some s →
        (s.isStopped g = true ↔ d.Took id .cancel (fun t => t.owns g = true) ∨ d.Took id (.stop g) fun _ => True)) ∧
      ∀ p ∈ d.issued, ∀ q ∈ d.issued, p.number = q.number → p = q) ∧
    (∀ (again : Taker) (w : HostState), (w.service.directory.sessions.map Session.id).Nodup →
      (∀ key, (w.session key).isActive = false → (Service.cancelSession (host again) key).run w = ((), w)) ∧
      ((w.session w.service.directory.currentKey).isActive = false → (Service.cancel (host again)).run w = ((), w))) ∧
    (∀ (provider : Provider) (request : ChatRequest),
      let call (stopAfter : Option Nat) (replyTo : Nat → Reply) := CallPlan.run { stopAfter } replyTo (provider.perform request)
      (∀ replyTo, (call (some 0) replyTo).1 = .finished (.ok ()) ∧ (call (some 0) replyTo).2.sent = []) ∧
      (∀ network, ∃ reply, (provider.perform request).texts network = (provider.perform request).texts fun _ => reply) ∧
      ∀ reply,
        let texts := (provider.perform request).texts fun _ => reply
        (call none fun _ => reply).2.pieces.toList = texts ∧
        ∀ n, 0 < n → n ≤ texts.length → (call (some n) fun _ => reply).1 = .finished (.ok ()) ∧
          (call (some n) fun _ => reply).2.pieces.toList = texts.take n) ∧
    (∀ (network : HttpRequest → Reply) (depth : Nat) (w w' : HostState) (held : Multiset (Pending Backend)) (d : Docket Backend)
      (key : SessionKey) (backend : Option Backend) (context : Option Json) (p : Pending Backend) (provider : Provider),
      desk.Accounts w held d →
      (Service.startResponse (host (perform network depth)) key backend context).run w = (.ok p, w') →
      p.provider = .builtIn provider →
        let v := ((Service.cancelSession (host (perform network depth)) (.listed p.session)).run w').2
        (v.service.directory.sessions.map Session.id).Nodup →
          ∀ (again : Taker) (replies : HttpRequest → Reply) (patient : Bool), (respond again replies patient p).run v = (.ok, v)) ∧
    (∀ (again : Taker) (network : HttpRequest → Reply) (w : HostState) (p : Pending Backend) (provider : Provider) (n : Nat),
      p.provider = .builtIn provider → 0 < n → n ≤ ((provider.perform p.request).texts network).length →
      StoppedWith again p w ((provider.perform p.request).texts network) n →
        let v := heardOf again p w (((provider.perform p.request).texts network).take n)
        (v.service.directory.sessions.map Session.id).Nodup → (respond again network true p).run w = (.ok, v)) ∧
    ∀ (network : HttpRequest → Reply) (depth : Nat) (w : HostState) (d : Docket Backend) (p : Pending Backend) (s : Session)
      (n : Nat) (texts : List String),
      d.IsReached → d.service = w.service → (w.service.directory.sessions.map Session.id).Nodup →
      w.service.directory.get? p.session = some s → s.owns p.generation = true → s.isStopped p.generation = false →
      0 < n → n ≤ texts.length → CancelsAt w p.session n →
        StoppedWith (perform network (depth + 1)) p w texts n ∧
        let v := heardOf (perform network (depth + 1)) p w (texts.take n)
        (v.service.directory.sessions.map Session.id).Nodup ∧
        ∃ m, s.last? = some m ∧ m.error = none ∧ v.service = (w.place { s with
          history := s.history.dropLast ++ [{ m with content := m.content ++ String.join (texts.take n) }]
          isActive := false
          stopped := s.stopped ++ [p.generation] }).service := by
  refine ⟨⟨?_, ?_⟩, ?_, ?_, ?_, ?_, ?_, ?_⟩
  · intro d key m id s hs
    exact Docket.exists_stopped_moved d key m hs
  · exact fun s => ⟨Session.take_cancel_of_idle, s.isActive_take_cancel⟩
  · intro d hd
    refine ⟨fun id s g hs => hd.isStopped_iff hs g, fun p hp q hq hnumber => ?_⟩
    exact List.inj_on_of_nodup_map hd.isBalanced.distinct hp hq hnumber
  · intro again w hd
    exact ⟨fun key => run_cancelSession_of_idle hd, fun ha => (run_cancel again w).trans (run_cancelSession_of_idle hd ha)⟩
  · intro provider request call
    obtain ⟨hsoon, hheeds⟩ := provider.perform_heeds request
    exact ⟨fun replyTo => CallPlan.run_stopped_before replyTo hsoon, provider.exists_reply request,
      fun reply => ⟨CallPlan.pieces_run reply _, fun n hn hle => CallPlan.run_stopped_after reply hheeds hn hle⟩⟩
  · intro network depth w w' held d key backend context p provider hd hstart hprovider v hnodup again replies patient
    obtain ⟨f, hf, hservice, hp, ho⟩ := exists_outstanding_of_cancelled (advances_perform network depth) hd hstart
    exact run_respond_of_outstanding hprovider hf hservice hp hnodup ho patient
  · intro again network w p provider n hprovider hn hle hs v hd
    exact run_respond_of_stoppedWith hprovider hn hle hs hd
  · intro network depth w d p s n texts hd hservice hnodup hs ho hgoes hn hle hcancels
    have hid : s.id = p.session := Directory.id_of_get? hs
    obtain ⟨moves, hmoves, -⟩ := hd.isRecord.played p.session s (hservice ▸ hs)
    have hactive : ((Session.new p.session).run moves).isActive = true := hmoves ▸ ((Session.owns_iff s _).mp ho).1
    obtain ⟨m, hm, -, he⟩ := (Session.shape_run p.session moves).active hactive
    rw [← hmoves] at hm
    rw [← hid] at hs hcancels
    obtain ⟨hstopped, hafter⟩ := hcancels.stoppedWith network depth hn hle hid hs ho hgoes hm
    refine ⟨hstopped, ?_, m, hm, he, hafter⟩
    rw [hafter, map_id_place]
    exact hnodup

/-- A network on which nobody can be reached. -/
def silent : HttpRequest → Reply :=
  fun _ => .unreachable

/-- The response of a session to its first prompt, by a provider that says the prompt again. -/
def echoedPending : Pending Backend :=
  ⟨.nil, 1, .builtIn (.echo 0), ⟨"Hi", [], none⟩⟩

/-- The moves of the session up to this response. -/
def echoedMoves : List (Move Backend) :=
  [.setPrompt "Hi", .start (some (.builtIn (.echo 0))) none default default]

/-- A docket with one session. -/
def newDocket : Docket Backend :=
  { service.directory := .add {} .nil }

theorem newDocket_isReached : newDocket.IsReached :=
  (Docket.Changes.adds .nil).leads

/-- The docket after these moves. -/
def echoedDocket : Docket Backend :=
  echoedMoves.foldl (fun d m => d.moved (.listed .nil) m 0) newDocket

theorem echoedDocket_isReached : echoedDocket.IsReached := by
  have hprompted := newDocket_isReached.moved (.listed .nil) (.setPrompt "Hi") (zero_add 0).symm rfl
  exact hprompted.moved (.listed .nil) (.start (some (.builtIn (.echo 0))) none default default) (zero_add 0).symm rfl

/-- A host of this docket, with a listener that cancels the session when it is shown a message of it. -/
def interruptedHost : HostState where
  service := echoedDocket.service
  watched := [.listed .nil]
  hooks := [{ kind := .response, nth := 1, session := none, label := "", step := .cancelSession (.nth 0) }]

/-- The listener leaves the response with one character of two, and a response that was cancelled before it was answered stays as it
was. -/
theorem interrupted_after_one_piece :
    (∃ v, (respond (perform silent 1) silent true echoedPending).run interruptedHost = (.ok, v) ∧
      (v.service.directory.sessions.map fun s => (s.isActive, s.stopped, s.history.map Message.content)) =
        [(false, [1], ["Hi", "H"])]) ∧
    ∃ p v, (respond (perform silent 0) silent true p).run v = (.ok, v) ∧ p.provider = .builtIn (.echo 0) ∧
      (v.service.directory.sessions.map fun s => (s.isActive, s.stopped, s.history.map Message.content)) =
        [(false, [1], ["", ""])] := by
  obtain ⟨-, -, -, -, hbefore, hstops, hlistener⟩ := cancel_reaches_its_generation (π := Backend)
  constructor
  · have htexts : ((Provider.echo 0).perform echoedPending.request).texts silent = ["H", "i"] := by decide +kernel
    have hcancels : CancelsAt interruptedHost .nil 1 :=
      ⟨rfl, [], _, [], .nth 0, rfl, rfl, rfl, rfl, rfl, fun _ h => absurd h List.not_mem_nil⟩
    have hdistinct : (interruptedHost.service.directory.sessions.map Session.id).Nodup := by decide +kernel
    have hget : interruptedHost.service.directory.get? .nil = some ((Session.new .nil).run echoedMoves) := rfl
    have howns : ((Session.new .nil).run echoedMoves).owns 1 = true := rfl
    have hgoes : ((Session.new .nil).run echoedMoves).isStopped 1 = false := rfl
    obtain ⟨hstopped, hnodup, m, hm, -, hservice⟩ := hlistener silent 0 interruptedHost echoedDocket echoedPending _ 1 ["H", "i"]
      echoedDocket_isReached rfl hdistinct hget howns hgoes Nat.one_pos (by decide) hcancels
    rw [← htexts] at hstopped hnodup hservice
    have hle : 1 ≤ (((Provider.echo 0).perform echoedPending.request).texts silent).length := by
      rw [htexts]
      decide
    have hend := hstops (perform silent (0 + 1)) silent interruptedHost echoedPending (.echo 0) 1 rfl Nat.one_pos hle hstopped hnodup
    clear hstopped
    generalize heardOf (perform silent (0 + 1)) echoedPending interruptedHost
      (List.take 1 (((Provider.echo 0).perform echoedPending.request).texts silent)) = v at hend hservice hnodup
    refine ⟨v, hend, ?_⟩
    have hplaceholder : ((Session.new .nil).run echoedMoves).last? = some (.new default .assistant "") := rfl
    obtain rfl := Option.some.inj (hm.symm.trans hplaceholder)
    rw [hservice, htexts]
    decide +kernel
  · have haccounts : desk.Accounts { service := newDocket.service } 0 newDocket :=
      ⟨newDocket_isReached, ⟨List.nodup_nil, nofun⟩, rfl, rfl⟩
    obtain ⟨p, w', hstart, hprovider, hids, hshown⟩ : ∃ p w',
        (Service.startResponse (host (perform silent 0)) (.listed .nil) (some (.builtIn (.echo 0))) none).run
          { service := newDocket.service } = (.ok p, w') ∧ p.provider = .builtIn (.echo 0) ∧
        (((Service.cancelSession (host (perform silent 0)) (.listed p.session)).run w').2.service.directory.sessions.map
          Session.id).Nodup ∧
        (((Service.cancelSession (host (perform silent 0)) (.listed p.session)).run w').2.service.directory.sessions.map fun s =>
          (s.isActive, s.stopped, s.history.map Message.content)) = [(false, [1], ["", ""])] :=
      ⟨_, _, rfl, rfl, List.nodup_singleton _, rfl⟩
    exact ⟨p, _, hbefore silent 0 _ w' 0 newDocket _ _ _ p (.echo 0) haccounts hstart hprovider hids _ silent true, hprovider, hshown⟩

end Colloquy
