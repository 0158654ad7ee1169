import Colloquy.Proofs.Provider.Outcome

/-!
# How a provider stops

A provider is told to stop by nothing but what its stage says when it looks, waits or sends; a piece of text may tell it to stop
as well, when somebody hears it who does so. What the built-in providers do is ordered so that a look, a pause, a request, or
the end comes after every piece of text (`Performance.Heeds`). So a provider that was told to stop before it began sends nothing,
and one that is told to stop with a piece of text says nothing more.
-/

namespace Colloquy

namespace Performance

/-- What ends well at once if it was told to stop before. -/
def HaltsAtOnce : Performance → Prop
  | .done result => result = .ok ()
  | .emit _ _ => False
  | _ => True

/-- What ends well at once whenever it is told to stop with a piece of text. -/
def Heeds : Performance → Prop
  | .done _ => True
  | .emit _ next => next.HaltsAtOnce ∧ next.Heeds
  | .check next => next.Heeds
  | .wait _ next => next.Heeds
  | .hang => True
  | .exchange _ next => ∀ reply, (next reply).Heeds

/-- The pieces of text that are emitted if nobody says to stop and the network answers all requests. -/
def texts (network : HttpRequest → Reply) : Performance → List String
  | .done _ => []
  | .emit text next => text :: next.texts network
  | .check next => next.texts network
  | .wait _ next => next.texts network
  | .hang => []
  | .exchange request next => (next (network request)).texts network

/-- How it ends if nobody says to stop and the network answers all requests. -/
def result (network : HttpRequest → Reply) : Performance → Outcome
  | .done result => .finished result
  | .emit _ next => next.result network
  | .check next => next.result network
  | .wait _ next => next.result network
  | .hang => .unfinished
  | .exchange request next => (next (network request)).result network

/-- What sends no request. -/
def SendsNothing : Performance → Prop
  | .done _ => True
  | .emit _ next => next.SendsNothing
  | .check next => next.SendsNothing
  | .wait _ next => next.SendsNothing
  | .hang => True
  | .exchange _ _ => False

/-- What sends one request at most. -/
def SendsOnce : Performance → Prop
  | .done _ => True
  | .emit _ next => next.SendsOnce
  | .check next => next.SendsOnce
  | .wait _ next => next.SendsOnce
  | .hang => True
  | .exchange _ next => ∀ reply, (next reply).SendsNothing

/-- What begins with a point at which it halts, or with one piece of text before such a point. -/
def HaltsSoon (p : Performance) : Prop :=
  p.HaltsAtOnce ∨ ∃ text next, p = .emit text next ∧ next.HaltsAtOnce

/-- What sends no request says the same on every network. -/
theorem SendsNothing.texts_eq {p : Performance} (h : p.SendsNothing) (network network' : HttpRequest → Reply) :
    p.texts network = p.texts network' := by
  induction p with
  | done result => rfl
  | emit text next ih => exact congrArg (List.cons text) (ih h)
  | check next ih => exact ih h
  | wait ms next ih => exact ih h
  | hang => rfl
  | exchange request next ih => exact h.elim

theorem SendsNothing.sendsOnce {p : Performance} (h : p.SendsNothing) : p.SendsOnce := by
  induction p with
  | done result => trivial
  | emit text next ih => exact ih h
  | check next ih => exact ih h
  | wait ms next ih => exact ih h
  | hang => trivial
  | exchange request next ih => exact h.elim

/-- Where one request is sent at most, it is one reply that settles the texts. -/
theorem SendsOnce.exists_reply {p : Performance} (h : p.SendsOnce) (network : HttpRequest → Reply) :
    ∃ reply, p.texts network = p.texts fun _ => reply := by
  induction p with
  | done result => exact ⟨.unreachable, rfl⟩
  | emit text next ih =>
    obtain ⟨reply, hreply⟩ := ih h
    exact ⟨reply, congrArg (List.cons text) hreply⟩
  | check next ih => exact ih h
  | wait ms next ih => exact ih h
  | hang => exact ⟨.unreachable, rfl⟩
  | exchange request next ih => exact ⟨network request, (h _).texts_eq _ _⟩

end Performance

/-! ## The built-in providers -/

namespace Network

variable {α : Type}

theorem play_haltsAtOnce (text : α → Except Error (Option String)) {last : Performance} (hl : last.HaltsAtOnce)
    (events : List (Except Error α)) : (play text last events).HaltsAtOnce := by
  cases events with
  | nil => exact hl
  | cons e rest => cases e <;> trivial

theorem play_heeds (text : α → Except Error (Option String)) (last : Performance) (hl : last.HaltsAtOnce) (hh : last.Heeds)
    (events : List (Except Error α)) : (play text last events).Heeds := by
  induction events with
  | nil => exact hh
  | cons e rest ih =>
    cases e with
    | error e => trivial
    | ok event =>
      rw [play, Performance.Heeds]
      split
      · trivial
      · exact ih
      · exact ⟨play_haltsAtOnce text hl rest, ih⟩

theorem playBody_heeds (dialect : Dialect α) (chunks : List (List UInt8)) (ending : BodyEnd) :
    (playBody dialect chunks ending).Heeds := by
  rw [playBody]
  have hwhole := play_heeds dialect.text (.check (.done (.ok ()))) trivial trivial
  split
  · split
    · exact hwhole _
    · exact play_heeds dialect.text .hang trivial trivial _
  · exact hwhole _

theorem respond_heeds (dialect : Dialect α) (request : HttpRequest) (reply : Reply) :
    (respond dialect request reply).Heeds := by
  unfold respond
  split
  · trivial
  · trivial
  · dsimp only
    split
    · exact playBody_heeds dialect _ _
    · unfold failWith
      split <;> split <;> trivial

theorem perform_heeds (dialect : Dialect α) (url : String) :
    (perform dialect url).HaltsAtOnce ∧ (perform dialect url).Heeds := by
  rw [perform]
  split
  · exact ⟨trivial, trivial⟩
  · exact ⟨trivial, respond_heeds dialect _⟩

theorem play_sendsNothing (text : α → Except Error (Option String)) (last : Performance) (hl : last.SendsNothing)
    (events : List (Except Error α)) : (play text last events).SendsNothing := by
  induction events with
  | nil => exact hl
  | cons e rest ih =>
    cases e with
    | error e => trivial
    | ok event =>
      rw [play, Performance.SendsNothing]
      split
      · trivial
      · exact ih
      · exact ih

theorem playBody_sendsNothing (dialect : Dialect α) (chunks : List (List UInt8)) (ending : BodyEnd) :
    (playBody dialect chunks ending).SendsNothing := by
  have hwhole := play_sendsNothing dialect.text (.check (.done (.ok ()))) trivial
  rw [playBody]
  split
  · split
    · exact hwhole _
    · exact play_sendsNothing dialect.text .hang trivial _
  · exact hwhole _

/-- What is done with a reply sends nothing more. -/
theorem respond_sendsNothing (dialect : Dialect α) (request : HttpRequest) (reply : Reply) :
    (respond dialect request reply).SendsNothing := by
  unfold respond
  split
  · trivial
  · trivial
  · dsimp only
    split
    · exact playBody_sendsNothing dialect _ _
    · unfold failWith
      split <;> split <;> trivial

theorem perform_sendsOnce (dialect : Dialect α) (url : String) : (perform dialect url).SendsOnce := by
  rw [perform]
  split
  · trivial
  · exact respond_sendsNothing dialect _

end Network

theorem Echo.speak_heeds (delayMs : Nat) (text : List Char) :
    (speak delayMs text).HaltsAtOnce ∧ (speak delayMs text).Heeds := by
  induction text with
  | nil => exact ⟨rfl, trivial⟩
  | cons c rest ih => exact ⟨trivial, ih⟩

/-- Every built-in provider halts soon and heeds. -/
theorem Provider.perform_heeds (provider : Provider) (request : ChatRequest) :
    (provider.perform request).HaltsSoon ∧ (provider.perform request).Heeds := by
  cases provider with
  | echo delayMs =>
    have hspeech := Echo.speak_heeds (min delayMs Echo.longestPauseMs) request.prompt.toList
    rw [perform, Echo.perform]
    cases request.context with
    | none => exact ⟨.inl hspeech.1, hspeech.2⟩
    | some c => exact ⟨.inr ⟨_, _, rfl, hspeech.1⟩, hspeech⟩
  | openai endpoint =>
    have h := Network.perform_heeds (OpenAi.dialect endpoint request) endpoint.url
    exact ⟨.inl h.1, h.2⟩
  | anthropic endpoint maxTokens =>
    have h := Network.perform_heeds (Anthropic.dialect endpoint maxTokens request) endpoint.url
    exact ⟨.inl h.1, h.2⟩

theorem Echo.speak_sendsNothing (delayMs : Nat) (text : List Char) : (speak delayMs text).SendsNothing := by
  induction text with
  | nil => trivial
  | cons c rest ih => exact ih

theorem Echo.perform_sendsNothing (delayMs : Nat) (request : ChatRequest) : (perform delayMs request).SendsNothing := by
  rw [perform]
  cases request.context with
  | none => exact speak_sendsNothing _ _
  | some c => exact speak_sendsNothing _ _

/-- No built-in provider sends more than one request. -/
theorem Provider.perform_sendsOnce (provider : Provider) (request : ChatRequest) : (provider.perform request).SendsOnce := by
  cases provider with
  | echo delayMs => exact (Echo.perform_sendsNothing delayMs request).sendsOnce
  | openai endpoint => exact Network.perform_sendsOnce _ _
  | anthropic endpoint maxTokens => exact Network.perform_sendsOnce _ _

/-- What a built-in provider says on a network is what it says for some one reply. -/
theorem Provider.exists_reply (provider : Provider) (request : ChatRequest) (network : HttpRequest → Reply) :
    ∃ reply, (provider.perform request).texts network = (provider.perform request).texts fun _ => reply :=
  (provider.perform_sendsOnce request).exists_reply network

/-! ## On a stage -/

variable {W V : Type}

/-- A stage on which who is told to stop waits for nothing and sends nothing. -/
structure Stage.Halts (stage : Stage (StateM W)) (stopped : W → Bool) : Prop where
  isStopped : ∀ w, stage.isStopped.run w = (stopped w, w)
  wait : ∀ ms w, stopped w = true → (stage.wait ms).run w = (.stopped, w)
  exchange : ∀ request w, stopped w = true → (stage.exchange request).run w = (.stopped, w)

/-- A stage on which, moreover, all that has to be waited for comes. Of its state there is a `view` that tells whether to stop, and
that pieces of text change and nothing else. -/
structure Stage.Serves (stage : Stage (StateM W)) (network : HttpRequest → Reply) (view : W → V) (stopped : V → Bool)
    (hear : String → V → V) : Prop extends stage.Halts fun w => stopped (view w) where
  emit : ∀ text w, view ((stage.emit text).run w).2 = hear text (view w)
  passes : ∀ ms w, stopped (view w) = false → ∃ v, view v = view w ∧ (stage.wait ms).run w = (.passed (), v)
  answers : ∀ request w, stopped (view w) = false →
    ∃ v, view v = view w ∧ (stage.exchange request).run w = (.passed (network request), v)

/-- What becomes of a view by pieces of text. -/
def afterHearing (hear : String → V → V) (v : V) (texts : List String) : V :=
  texts.foldl (fun v text => hear text v) v

namespace Stage

variable {stage : Stage (StateM W)}

/-- Who looks ends well, or goes on. -/
theorem Halts.run_check {stopped : W → Bool} (h : stage.Halts stopped) (next : Performance) (w : W) :
    ((Performance.check next).run stage).run w =
      if stopped w then (.finished (.ok ()), w) else (next.run stage).run w := by
  rw [Performance.run, StateT.run_bind, h.isStopped]
  change StateT.run (if stopped w then pure (.finished (.ok ())) else next.run stage) w = _
  cases stopped w <;> rfl

/-- Who halts at once does so if it was told to stop, and leaves all as it is. -/
theorem Halts.run_of_haltsAtOnce {stopped : W → Bool} (h : stage.Halts stopped) {p : Performance} (hp : p.HaltsAtOnce) {w : W}
    (hs : stopped w = true) : (p.run stage).run w = (.finished (.ok ()), w) := by
  cases p with
  | done result =>
    obtain rfl : result = .ok () := hp
    rfl
  | emit text next => exact hp.elim
  | check next => rw [h.run_check, if_pos hs]
  | wait ms next =>
    rw [Performance.run, StateT.run_bind, h.wait ms w hs]
    rfl
  | hang =>
    rw [Performance.run, StateT.run_bind, h.isStopped, hs]
    rfl
  | exchange request next =>
    rw [Performance.run, StateT.run_bind, h.exchange request w hs]
    rfl

/-- Who halts soon says one piece of text at most if it was told to stop, and ends well. -/
theorem Halts.run_of_haltsSoon {stopped : W → Bool} (h : stage.Halts stopped) {p : Performance} (hp : p.HaltsSoon) {w : W}
    (hs : stopped w = true) (hkeeps : ∀ text, stopped ((stage.emit text).run w).2 = true) :
    ∃ v, (p.run stage).run w = (.finished (.ok ()), v) ∧ (v = w ∨ ∃ text, v = ((stage.emit text).run w).2) := by
  rcases hp with hp | ⟨text, next, rfl, hp⟩
  · exact ⟨w, h.run_of_haltsAtOnce hp hs, .inl rfl⟩
  · exact ⟨_, h.run_of_haltsAtOnce hp (hkeeps text), .inr ⟨text, rfl⟩⟩

namespace Serves

variable {network : HttpRequest → Reply} {view : W → V} {stopped : V → Bool} {hear : String → V → V}
  (h : stage.Serves network view stopped hear)

include h

theorem run_wait (ms : Nat) (next : Performance) {w : W} (hs : stopped (view w) = false) :
    ∃ v, view v = view w ∧ ((Performance.wait ms next).run stage).run w = (next.run stage).run v := by
  obtain ⟨v, hv, hpasses⟩ := h.passes ms w hs
  refine ⟨v, hv, ?_⟩
  rw [Performance.run, StateT.run_bind, hpasses]
  rfl

theorem run_exchange (request : HttpRequest) (next : Reply → Performance) {w : W} (hs : stopped (view w) = false) :
    ∃ v, view v = view w ∧
      ((Performance.exchange request next).run stage).run w = ((next (network request)).run stage).run v := by
  obtain ⟨v, hv, hanswers⟩ := h.answers request w hs
  refine ⟨v, hv, ?_⟩
  rw [Performance.run, StateT.run_bind, hanswers]
  rfl

/-- Who heeds, and is told to stop with the `n`th piece of text, says the first `n` of them and ends well. -/
theorem run_of_stopped_after {p : Performance} (hp : p.Heeds) {n : Nat} (hn : 0 < n) (hle : n ≤ (p.texts network).length)
    {w : W} (hgoes : ∀ i < n, stopped (afterHearing hear (view w) ((p.texts network).take i)) = false)
    (hstops : stopped (afterHearing hear (view w) ((p.texts network).take n)) = true) :
    ((p.run stage).run w).1 = .finished (.ok ()) ∧
      view ((p.run stage).run w).2 = afterHearing hear (view w) ((p.texts network).take n) := by
  induction p generalizing n w with
  | done result => exact absurd (Nat.lt_of_lt_of_le hn hle) (Nat.lt_irrefl 0)
  | emit text next ih =>
    have hrun : ((Performance.emit text next).run stage).run w = (next.run stage).run ((stage.emit text).run w).2 := rfl
    have hview := h.emit text w
    rw [hrun]
    generalize ((stage.emit text).run w).2 = v at hview
    match n with
    | 1 =>
      -- the last piece has been said, and next the performance halts
      rw [h.run_of_haltsAtOnce hp.1 (hview ▸ hstops : stopped (view v) = true)]
      exact ⟨rfl, hview⟩
    | n + 2 =>
      have hrest := ih (w := v) (n := n + 1) hp.2 n.succ_pos (Nat.le_of_succ_le_succ hle)
        (fun i hi => by rw [hview]; exact hgoes (i + 1) (Nat.succ_lt_succ hi)) (by rw [hview]; exact hstops)
      rw [hview] at hrest
      exact hrest
  | check next ih =>
    have hs : stopped (view w) = false := hgoes 0 hn
    rw [h.run_check, hs, if_neg Bool.false_ne_true]
    exact ih hp hn hle hgoes hstops
  | wait ms next ih =>
    obtain ⟨v, hv, hrun⟩ := h.run_wait ms next (hgoes 0 hn)
    rw [← hv] at hgoes hstops ⊢
    rw [hrun]
    exact ih hp hn hle hgoes hstops
  | hang => exact absurd (Nat.lt_of_lt_of_le hn hle) (Nat.lt_irrefl 0)
  | exchange request next ih =>
    obtain ⟨v, hv, hrun⟩ := h.run_exchange request next (hgoes 0 hn)
    rw [← hv] at hgoes hstops ⊢
    rw [hrun]
    exact ih (network request) (hp _) hn hle hgoes hstops

/-- Who is told to stop with none of its pieces of text says all, and ends as it would anyway. -/
theorem run_to_end (p : Performance) {w : W} (hgoes : ∀ i ≤ (p.texts network).length,
      stopped (afterHearing hear (view w) ((p.texts network).take i)) = false) :
    ((p.run stage).run w).1 = p.result network ∧
      view ((p.run stage).run w).2 = afterHearing hear (view w) (p.texts network) := by
  induction p generalizing w with
  | done result => exact ⟨rfl, rfl⟩
  | emit text next ih =>
    have hview := h.emit text w
    have hrest := ih (w := ((stage.emit text).run w).2) fun i hi => by
      rw [hview]
      exact hgoes (i + 1) (Nat.succ_le_succ hi)
    rw [hview] at hrest
    exact hrest
  | check next ih =>
    have hs : stopped (view w) = false := hgoes 0 (Nat.zero_le _)
    rw [h.run_check, hs, if_neg Bool.false_ne_true]
    exact ih hgoes
  | wait ms next ih =>
    obtain ⟨v, hv, hrun⟩ := h.run_wait ms next (hgoes 0 (Nat.zero_le _))
    rw [← hv] at hgoes ⊢
    rw [hrun]
    exact ih hgoes
  | hang =>
    have hs : stopped (view w) = false := hgoes 0 (Nat.zero_le _)
    rw [Performance.run, StateT.run_bind, h.isStopped, hs]
    exact ⟨rfl, rfl⟩
  | exchange request next ih =>
    obtain ⟨v, hv, hrun⟩ := h.run_exchange request next (hgoes 0 (Nat.zero_le _))
    rw [← hv] at hgoes ⊢
    rw [hrun]
    exact ih (network request) hgoes

end Serves

end Stage

/-! ## A call on its own -/

namespace CallPlan

/-- What has come of a call: the pieces of text, and whether it was told to stop. -/
def progress (s : CallState) : List String × Bool :=
  (s.pieces.toList, s.stopped)

/-- A piece of text is added; the call may have to stop after so many of them. -/
def hear (stopAfter : Option Nat) (text : String) (v : List String × Bool) : List String × Bool :=
  (v.1 ++ [text], v.2 || stopAfter = some (v.1.length + 1))

theorem halts (plan : CallPlan) (replyTo : Nat → Reply) : (plan.stage replyTo).Halts CallState.stopped where
  isStopped _ := rfl
  wait ms s hs := by
    have hrun : ((plan.stage replyTo).wait ms).run s = plan.wait ms s := rfl
    rw [hrun, wait, if_pos hs]
  exchange request s hs := by
    have hrun : ((plan.stage replyTo).exchange request).run s = plan.exchange replyTo request s := rfl
    rw [hrun, exchange, if_pos hs]

/-- A call that is told to stop with some piece of text, if at all. -/
theorem serves (stopAfter : Option Nat) (reply : Reply) :
    (stage { stopAfter } fun _ => reply).Serves (fun _ => reply) progress Prod.snd (hear stopAfter) where
  toHalts := halts _ _
  emit text s := by
    change progress (emit _ text s) = _
    rw [progress, hear, progress, emit, Array.toList_push, Array.length_toList]
  passes ms s hs := by
    have hrun : ((stage { stopAfter } fun _ => reply).wait ms).run s = wait { stopAfter } ms s := rfl
    have hs : s.stopped = false := hs
    exact ⟨{ s with elapsedMs := s.elapsedMs + ms }, rfl, by simp [hrun, wait, hs]⟩
  answers request s hs := by
    have hrun : ((stage { stopAfter } fun _ => reply).exchange request).run s =
        exchange { stopAfter } (fun _ => reply) request s := rfl
    have hs : s.stopped = false := hs
    simp only [hrun, exchange, hs, Bool.false_eq_true, if_false]
    split
    · exact ⟨_, by simp [progress, hs], rfl⟩
    · exact ⟨_, by simp [progress, hs], rfl⟩

/-- After some pieces of text the call has said them, and was told to stop if that was to happen with one of them. -/
theorem afterHearing_hear (stopAfter : Option Nat) (v : List String × Bool) (texts : List String) :
    afterHearing (hear stopAfter) v texts =
      (v.1 ++ texts, v.2 || stopAfter.any fun n => v.1.length < n ∧ n ≤ v.1.length + texts.length) := by
  induction texts generalizing v with
  | nil =>
    cases stopAfter with
    | none => simp [afterHearing]
    | some n =>
      have hnone : (decide (v.1.length < n) && decide (n ≤ v.1.length)) = false := by
        rw [← Bool.decide_and]
        exact decide_eq_false (by omega)
      simp [afterHearing, hnone]
  | cons text rest ih =>
    have h : afterHearing (hear stopAfter) v (text :: rest) = afterHearing (hear stopAfter) (hear stopAfter text v) rest := rfl
    rw [h, ih, hear]
    cases stopAfter with
    | none => simp
    | some n =>
      have hsplit : (decide (n = v.1.length + 1) || decide (v.1.length + 1 < n) && decide (n ≤ v.1.length + 1 + rest.length)) =
          (decide (v.1.length < n) && decide (n ≤ v.1.length + (rest.length + 1))) := by
        rw [← Bool.decide_and, ← Bool.decide_or, ← Bool.decide_and]
        exact decide_eq_decide.mpr (by omega)
      simp [Bool.or_assoc, hsplit]

/-- A call that is told to stop with none of its pieces of text says them all, and ends as it would anyway. -/
theorem run_not_stopped (reply : Reply) (p : Performance) {stopAfter : Option Nat}
    (hnever : ∀ n ∈ stopAfter, (p.texts fun _ => reply).length < n) :
    (run { stopAfter } (fun _ => reply) p).1 = p.result (fun _ => reply) ∧
      (run { stopAfter } (fun _ => reply) p).2.pieces.toList = p.texts fun _ => reply := by
  have hstart : progress (start { stopAfter }) = ([], false) := by
    have hzero : stopAfter ≠ some 0 := fun h => Nat.not_lt_zero _ (hnever 0 h)
    simp [progress, start, hzero]
  have h := (serves stopAfter reply).run_to_end p (w := start { stopAfter }) fun i hi => by
    rw [hstart, afterHearing_hear]
    cases stopAfter with
    | none => rfl
    | some n =>
      have := hnever n rfl
      simp
      omega
  rw [hstart, afterHearing_hear] at h
  exact ⟨h.1, congrArg Prod.fst h.2⟩

/-- A call that nobody stops says all pieces of text. -/
theorem pieces_run (reply : Reply) (p : Performance) :
    (run {} (fun _ => reply) p).2.pieces.toList = p.texts fun _ => reply :=
  (run_not_stopped reply p fun _ hn => absurd hn (Option.not_mem_none _)).2

/-- A call that is told to stop with the `n`th piece of text says the first `n`, and ends well. -/
theorem run_stopped_after (reply : Reply) {p : Performance} (hp : p.Heeds) {n : Nat} (hn : 0 < n)
    (hle : n ≤ (p.texts fun _ => reply).length) :
    (run { stopAfter := some n } (fun _ => reply) p).1 = .finished (.ok ()) ∧
      (run { stopAfter := some n } (fun _ => reply) p).2.pieces.toList = (p.texts fun _ => reply).take n := by
  have hstart : progress (start { stopAfter := some n }) = ([], false) := by
    simp [progress, start, Nat.ne_of_gt hn]
  have h := (serves (some n) reply).run_of_stopped_after hp hn hle (w := start { stopAfter := some n })
    (fun i hi => by rw [hstart, afterHearing_hear]; simp; omega)
    (by rw [hstart, afterHearing_hear]; simp; omega)
  rw [hstart, afterHearing_hear] at h
  exact ⟨h.1, congrArg Prod.fst h.2⟩

/-- A call that is told to stop before it begins sends no request, and ends well. -/
theorem run_stopped_before (replyTo : Nat → Reply) {p : Performance} (hp : p.HaltsSoon) :
    (run { stopAfter := some 0 } replyTo p).1 = .finished (.ok ()) ∧ (run { stopAfter := some 0 } replyTo p).2.sent = [] := by
  obtain ⟨v, hrun, hv⟩ := (halts { stopAfter := some 0 } replyTo).run_of_haltsSoon hp (w := start { stopAfter := some 0 })
    (by rfl) fun text => rfl
  have hsent : v.sent = [] := by
    rcases hv with rfl | ⟨text, rfl⟩ <;> rfl
  rw [run, hrun]
  exact ⟨rfl, hsent⟩

end CallPlan

end Colloquy
