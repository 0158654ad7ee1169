import Colloquy.Proofs.Scenario.Sessions
import Colloquy.Proofs.Service.Balance

/-!
# What the vendors see of a request

The two vendors are sent a request in bodies of their own, and one of them is not sent the messages of the system. A request that a
session issues holds no such message: its history is that of a session, in which the user and the assistant take turns
(`Session.BeginsWith.takesTurns`). So both see the same conversation (`ChatRequest.IsSeenAlike`), which is the main statement
(`vendors_see_alike`).
-/

namespace Colloquy

variable {π : Type}

/-! ## What is written is never empty -/

theorem FloatStyle.positional_ne_nil (digits : List Char) (point : Int) : positional digits point ≠ [] := by
  unfold positional
  split
  · simp
  · dsimp only
    split <;> simp

/-- No double is written without any character. -/
theorem FloatStyle.write_ne_nil (style : FloatStyle) (x : Binary64) : style.write x ≠ [] := by
  unfold write
  dsimp only
  split
  · exact List.cons_ne_nil _ _
  · split
    · exact List.cons_ne_nil _ _
    · split
      · exact positional_ne_nil _ _
      · simp [scientific]

theorem Json.compact_ne_empty (v : Json) : v.compact ≠ "" := by
  have hprint : v.print ≠ [] := by
    cases v with
    | null => simp [print]
    | bool b => cases b <;> simp [print]
    | num n =>
      cases n with
      | int i =>
        simp only [print, printNumber]
        split
        · exact List.cons_ne_nil _ _
        · exact Nat.toDigits_ne_nil
      | float x => exact FloatStyle.json.write_ne_nil x
    | str s => simp [print, printString]
    | arr items => cases items <;> simp [print]
    | obj fields => cases fields <;> simp [print]
  intro hcompact
  exact hprint (String.ofList_inj.mp (hcompact.trans String.ofList_nil.symm))

/-! ## Turns -/

/-- The user and the assistant take turns, the user first. -/
def TakesTurns (roles : List Role) : Prop :=
  ∀ i r, roles[i]? = some r → r = if i % 2 = 0 then .user else .assistant

theorem TakesTurns.append {a b : List Role} (ha : TakesTurns a) (heven : a.length % 2 = 0) (hb : TakesTurns b) :
    TakesTurns (a ++ b) := by
  intro i r hr
  rw [List.getElem?_append] at hr
  split at hr
  · exact ha i r hr
  · have hparity : (i - a.length) % 2 = i % 2 := by omega
    rw [← hparity]
    exact hb _ r hr

theorem TakesTurns.ne_system {roles : List Role} (h : TakesTurns roles) : Role.system ∉ roles := by
  intro hmem
  obtain ⟨i, hi⟩ := List.mem_iff_getElem?.mp hmem
  have hrole := h i _ hi
  split at hrole <;> cases hrole

theorem takesTurns_user : TakesTurns [.user] := by
  intro i r hr
  cases i with
  | zero => exact (Option.some.inj hr).symm
  | succ i => cases hr

theorem takesTurns_exchange : TakesTurns [.user, .assistant] := by
  intro i r hr
  match i, hr with
  | 0, hr => exact (Option.some.inj hr).symm
  | 1, hr => exact (Option.some.inj hr).symm

/-- The history of a request that a session issued is one of turns, and it is the user's turn next. -/
theorem Session.BeginsWith.takesTurns {s : Session} {p : Pending π} (h : s.BeginsWith p) (hs : s.Shape) :
    TakesTurns (p.request.history.map (·.role)) ∧ p.request.history.length % 2 = 0 := by
  have hnumbered := h.numbered
  have hgeneration := h.generation
  have hlength := hs.length
  rw [h.history]
  constructor
  · intro i r hr
    rw [List.getElem?_map, Option.map_eq_some_iff] at hr
    obtain ⟨m, hm, rfl⟩ := hr
    rw [List.getElem?_take] at hm
    split at hm
    · exact hs.role i m hm
    · cases hm
  · rw [List.length_take]
    omega

/-! ## The two bodies -/

namespace ChatRequest

/-- What comes before the prompt: the messages with a text, then the context and that it was taken note of if there is one. -/
def leading (r : ChatRequest) : List WireMessage :=
  ((r.history.filter fun m => m.content ≠ "").map fun m => ⟨m.role.name, m.content⟩) ++
    r.context.toList.flatMap fun c => [⟨"user", c.compact⟩, ⟨"assistant", contextAcknowledgement⟩]

/-- What both vendors see, with the prompt last. -/
def seen (r : ChatRequest) : List WireMessage :=
  r.leading ++ [⟨"user", r.prompt⟩]

/-- Both vendors see the same conversation, to which the one is sent the persona as a message of the system before all others. It has
no other message of the system, none of the history is left out for its role, and no message but the prompt is without a text.
If none of the history is, the user and the assistant take turns in it from the first message to the prompt. -/
structure IsSeenAlike (r : ChatRequest) : Prop where
  openai (endpoint : Endpoint) : (OpenAi.dialect endpoint r).body.field? "messages" =
    some (.arr ((⟨"system", persona⟩ :: r.seen).map WireMessage.toJson))
  anthropic (endpoint : Endpoint) (maxTokens : Nat) : (Anthropic.dialect endpoint maxTokens r).body.field? "messages" =
    some (.arr (r.seen.map WireMessage.toJson))
  unfiltered : ∀ m ∈ r.history, m.role ≠ .system
  roles : ∀ m ∈ r.seen, m.role ≠ "system"
  contents : ∀ m ∈ r.leading, m.content ≠ ""
  turns : (∀ m ∈ r.history, m.content ≠ "") → ∃ roles, r.seen.map (·.role) = roles.map Role.name ∧ TakesTurns roles ∧
    roles.getLast? = some .user

theorem mem_leading {r : ChatRequest} {m : WireMessage} (h : m ∈ r.leading) :
    (∃ x ∈ r.history, x.content ≠ "" ∧ m = ⟨x.role.name, x.content⟩) ∨
      ∃ c : Json, m = ⟨"user", c.compact⟩ ∨ m = ⟨"assistant", contextAcknowledgement⟩ := by
  rcases List.mem_append.mp h with hhistory | hcontext
  · obtain ⟨x, hx, rfl⟩ := List.mem_map.mp hhistory
    obtain ⟨hx, hfull⟩ := List.mem_filter.mp hx
    exact Or.inl ⟨x, hx, of_decide_eq_true hfull, rfl⟩
  · obtain ⟨c, -, hc⟩ := List.mem_flatMap.mp hcontext
    exact Or.inr ⟨c, by simpa using hc⟩

theorem content_of_mem_leading {r : ChatRequest} {m : WireMessage} (h : m ∈ r.leading) : m.content ≠ "" := by
  rcases mem_leading h with ⟨x, -, hfull, rfl⟩ | ⟨c, rfl | rfl⟩
  · exact hfull
  · exact c.compact_ne_empty
  · exact (by decide : contextAcknowledgement ≠ "")

theorem role_of_mem_seen {r : ChatRequest} (hsystem : ∀ m ∈ r.history, m.role ≠ .system) {m : WireMessage} (h : m ∈ r.seen) :
    m.role ≠ "system" := by
  have hname : ∀ role : Role, role ≠ .system → role.name ≠ "system" := by
    intro role hrole
    cases role with
    | user => decide
    | assistant => decide
    | system => exact absurd rfl hrole
  rcases List.mem_append.mp h with hleading | hprompt
  · rcases mem_leading hleading with ⟨x, hx, -, rfl⟩ | ⟨c, rfl | rfl⟩
    · exact hname x.role (hsystem x hx)
    · exact hname .user nofun
    · exact hname .assistant nofun
  · rw [List.mem_singleton.mp hprompt]
    exact hname .user nofun

/-- The conversation for a vendor that takes every role of the history. -/
theorem conversation_eq_seen (r : ChatRequest) {takes : Role → Bool} (htakes : ∀ m ∈ r.history, takes m.role = true) :
    r.conversation takes = r.seen := by
  have hhistory : r.nonEmptyHistory = r.history.filter fun m => m.content ≠ "" := by
    unfold nonEmptyHistory
    refine List.filter_congr fun m _ => ?_
    rw [Message.isEmpty, Bool.eq_iff_iff]
    simp
  have hall : r.nonEmptyHistory.filter (fun m => takes m.role) = r.nonEmptyHistory := by
    rw [List.filter_eq_self]
    intro m hm
    exact htakes m (List.mem_of_mem_filter hm)
  have hexchange : contextExchange r.context =
      r.context.toList.flatMap fun c => [⟨"user", c.compact⟩, ⟨"assistant", contextAcknowledgement⟩] := by
    cases r.context <;> rfl
  rw [conversation, hall, hhistory, hexchange]
  rfl

/-- Where no message is without a text, the turns of the history go on through the context to the prompt. -/
theorem takesTurns_seen {r : ChatRequest} (hturns : TakesTurns (r.history.map (·.role))) (heven : r.history.length % 2 = 0)
    (hfull : ∀ m ∈ r.history, m.content ≠ "") :
    ∃ roles, r.seen.map (·.role) = roles.map Role.name ∧ TakesTurns roles ∧ roles.getLast? = some .user := by
  have hkept : r.history.filter (fun m => decide (m.content ≠ "")) = r.history := by
    rw [List.filter_eq_self]
    intro m hm
    exact decide_eq_true (hfull m hm)
  have heven : (r.history.map (·.role)).length % 2 = 0 := by rw [List.length_map, heven]
  unfold seen leading
  rw [hkept]
  cases r.context with
  | none => exact ⟨r.history.map (·.role) ++ [.user], by simp [Role.name], hturns.append heven takesTurns_user, List.getLast?_concat⟩
  | some c =>
    have hlater : TakesTurns ([.user, .assistant] ++ [.user]) := takesTurns_exchange.append rfl takesTurns_user
    refine ⟨r.history.map (·.role) ++ ([.user, .assistant] ++ [.user]), by simp [Role.name], hturns.append heven hlater, ?_⟩
    rw [← List.append_assoc, List.getLast?_concat]

/-- A request in whose history turns are taken is seen alike. -/
theorem isSeenAlike_of_takesTurns {r : ChatRequest} (hturns : TakesTurns (r.history.map (·.role)))
    (heven : r.history.length % 2 = 0) : r.IsSeenAlike := by
  have hsystem : ∀ m ∈ r.history, m.role ≠ .system := by
    intro m hm hrole
    exact hturns.ne_system (hrole ▸ List.mem_map_of_mem hm)
  refine ⟨?_, ?_, hsystem, fun m hm => role_of_mem_seen hsystem hm, fun m hm => content_of_mem_leading hm, takesTurns_seen hturns heven⟩
  · intro endpoint
    have hseen : r.conversation (fun _ => true) = r.seen := conversation_eq_seen r fun _ _ => rfl
    rw [← hseen]
    rfl
  · intro endpoint maxTokens
    have hseen : r.conversation (· != .system) = r.seen := conversation_eq_seen r fun m hm => bne_iff_ne.mpr (hsystem m hm)
    rw [← hseen]
    rfl

end ChatRequest

/-- What a session issues is seen alike. -/
theorem Session.BeginsWith.isSeenAlike {s : Session} {p : Pending π} (h : s.BeginsWith p) (hs : s.Shape) : p.request.IsSeenAlike := by
  obtain ⟨hturns, heven⟩ := h.takesTurns hs
  exact ChatRequest.isSeenAlike_of_takesTurns hturns heven

open Scenario

/-- Both vendors see the same conversation of every request, in three parts: of those that a session issues, whatever moves it has
taken, in any order; of those that the sessions of a service have issued, whatever was done to the service; and of those whose
responses a host keeps, whatever the host, its listeners and its scripts have done. The context is whatever the host gave, or none. -/
theorem vendors_see_alike :
    (∀ (id : Uuid) (moves : List (Move π)), ∀ p ∈ (Session.new id).handedOut moves, p.request.IsSeenAlike) ∧
    (∀ d : Docket π, d.IsReached → ∀ p ∈ d.issued, p.request.IsSeenAlike) ∧
    ∀ (network : HttpRequest → Reply) (contexts : Option (List (Option Json))) (steps : List Step),
      ∀ e ∈ (leave network steps { contexts }).pendings, e.2.request.IsSeenAlike := by
  have hissued {π : Type} {d : Docket π} (hd : d.IsReached) {p : Pending π} (hp : p ∈ d.issued) : p.request.IsSeenAlike := by
    obtain ⟨s, hs, -, hbegins⟩ := hd.isRecord.exists_beginsWith hp
    obtain ⟨id, moves, rfl⟩ := hd.isPlayed s (Directory.mem_of_get? hs)
    exact hbegins.isSeenAlike (Session.shape_run id moves)
  refine ⟨?_, fun d hd p hp => hissued hd hp, ?_⟩
  · intro id moves p hp
    exact (Session.beginsWith_run id moves p hp).isSeenAlike (Session.shape_run id moves)
  · intro network contexts steps e he
    obtain ⟨d, hd, -, hkept⟩ := exists_docket_leave network contexts steps
    refine hissued hd (hd.isBalanced.mem_issued ?_)
    rw [hkept]
    exact Multiset.mem_coe.mpr (List.mem_map_of_mem he)

/-- A session whose first response was cancelled before it said anything, and whose second one is asked with a context of `null`. -/
def interruptedTurn : List (Move Unit) :=
  [.setPrompt "One?", .start (some ()) none default default, .cancel, .setPrompt "Two?",
    .start (some ()) (some .null) default default]

/-- The empty message is left out, and the context is sent though it is `null`. -/
theorem interruptedTurn_seen_alike :
    ∃ p ∈ (Session.new .nil).handedOut interruptedTurn, ∀ (endpoint : Endpoint) (maxTokens : Nat),
      (Anthropic.dialect endpoint maxTokens p.request).body.field? "messages" = some (.arr (
        [⟨"user", "One?"⟩, ⟨"user", "null"⟩, ⟨"assistant", contextAcknowledgement⟩, ⟨"user", "Two?"⟩].map WireMessage.toJson)) ∧
      (OpenAi.dialect endpoint p.request).body.field? "messages" = some (.arr (
        [⟨"system", persona⟩, ⟨"user", "One?"⟩, ⟨"user", "null"⟩, ⟨"assistant", contextAcknowledgement⟩, ⟨"user", "Two?"⟩].map
          WireMessage.toJson)) := by
  refine ⟨_, .tail _ (.head _), ?_⟩
  intro endpoint maxTokens
  have h := vendors_see_alike.1 .nil interruptedTurn _ (.tail _ (.head _))
  exact ⟨(h.anthropic endpoint maxTokens).trans rfl, (h.openai endpoint).trans rfl⟩

end Colloquy
