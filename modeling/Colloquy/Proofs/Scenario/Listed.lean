import Colloquy.Proofs.Scenario.Sessions
import Colloquy.Proofs.Service.SessionCalls

/-!
# The sessions that a service lists

Sessions come to a service and stay, under the identifiers that they were made with, and the one that is selected is among them. That
holds at every moment of everything that is asked of the sessions, for hosts whose listeners call back when they are told of a session
(`Bureau.directory_supplies`), and for the host that plays scenarios (`Scenario.exists_deeds_leave`). The main statement is
`sessions_stay_listed`.
-/

namespace Colloquy

variable {π W : Type}

/-! ## Listeners that call back -/

/-- Listeners that ask something of the sessions when they are told of one, at whatever depth. -/
theorem Bureau.directory_supplies
    (reacts : Announcement → List (Announcement × Directory) → Errand SessionCall (SessionAnswer π)) (depth : Nat) :
    (host (Directory.matter π) Service.sessionCall reacts depth).Supplies (ledger (Directory.matter π)) fun _ => True :=
  host_supplies (fun _ h call _ => (Ledger.goes_sessionCall h call).imp fun _ _ _ => trivial) reacts depth

/-! ## The host that plays scenarios -/

/-- Whatever steps are taken, some deeds have been done to the sessions, and whatever steps are taken next do some more. -/
theorem Scenario.exists_deeds_leave (network : HttpRequest → Reply) (contexts : Option (List (Option Json))) (steps more : List Step) :
    ∃ before after : List (Deed Backend),
      (leave network steps { contexts }).service.directory = ({} : Directory).doesAll before ∧
      (leave network (steps ++ more) { contexts }).service.directory = ({} : Directory).doesAll (before ++ after) := by
  have hstart : desk.Accounts { contexts } (0 + 0) {} :=
    ⟨.refl _, ⟨List.nodup_nil, fun _ hn => absurd hn List.not_mem_nil⟩, rfl, rfl⟩
  obtain ⟨d, hsteps, hd⟩ := leads_leave network steps { contexts } {} 0 hstart
  obtain ⟨e, hmore, he⟩ := leads_leave network more (leave network steps { contexts }) d 0 hd
  obtain ⟨before, hbefore⟩ := hsteps.exists_deeds
  obtain ⟨after, hafter⟩ := hmore.exists_deeds
  have hservice : (leave network steps { contexts }).service = d.service := hd.service.symm
  have hlater : (leave network (steps ++ more) { contexts }).service = e.service := by
    rw [leave, List.foldl_append]
    exact he.service.symm
  refine ⟨before, after, by rw [hservice]; exact hbefore, ?_⟩
  rw [hlater, hafter, hbefore, Directory.doesAll_append]

/-! ## What is listed stays -/

/-- The sessions of a service, whatever is asked of it, by whom and in which order, in four parts.
1. Calls are made of a service, new sessions and selections, what is there and what is current, and responses to the draft, in a host
   whose listeners may do what they like in between. Every call is answered, and all that was done to the sessions are deeds, those of
   the calls in their order and those of the listeners; what was announced of the sessions is what these deeds announce, and no more.
2. A new session is announced once and changes no selection. What is selected is announced once, with the session that is the current
   one then. What is not there is not selected, nothing is changed, and nothing is announced.
3. If the sessions that are announced to be made come under identifiers that are new, then at every moment all identifiers are different
   and the selected one is listed, and from every moment on sessions are only added, in the order in which they are made, and each
   remains to be found. So the current session is the selected one whenever one is selected.
4. Whatever steps a scenario takes, with listeners and scripts that use the service in return, what is done to the sessions are
   deeds. -/
theorem sessions_stay_listed :
    (∀ (host : Host π (StateM W)) (l : Ledger (Directory.matter π) W) (may : Deed π → Prop), host.Supplies l may →
      ∀ (w : W) (d : Directory) (told : List (Announcement × Directory)), l.Holds w d told → ∀ calls : List SessionCall,
        ∃ deeds : List (Deed π), ((askAll (Service.sessionCall host) calls).run w).1.map Prod.fst = calls ∧
          Directory.Serves may d ((askAll (Service.sessionCall host) calls).run w).1 deeds ∧
          l.Holds ((askAll (Service.sessionCall host) calls).run w).2 (d.doesAll deeds) (told ++ d.tellsAll deeds)) ∧
    (∀ (d : Directory) (a : Deed π), d.Effect a (d.does a) (d.tells a)) ∧
    (∀ d : Directory, d.IsSound → ∀ deeds : List (Deed π),
      (d.sessions.map Session.id ++ (d.tellsAll deeds).filterMap fun t => t.1.created?).Nodup →
        ∀ before after, deeds = before ++ after → (d.doesAll before).IsSound ∧ (d.doesAll before).Continues after) ∧
    ∀ (network : HttpRequest → Reply) (contexts : Option (List (Option Json))) (steps more : List Scenario.Step),
      ∃ before after : List (Deed Scenario.Backend),
        (Scenario.leave network steps { contexts }).service.directory = ({} : Directory).doesAll before ∧
        (Scenario.leave network (steps ++ more) { contexts }).service.directory = ({} : Directory).doesAll (before ++ after) := by
  refine ⟨?_, Directory.effect_does, ?_, Scenario.exists_deeds_leave⟩
  · intro host l may h w d told hw calls
    obtain ⟨deeds, ⟨hcalls, hserves⟩, hafter⟩ := Ledger.goes_sessionCalls h calls w told hw
    exact ⟨deeds, hcalls, hserves, hafter⟩
  · rintro d hd deeds hnew before after rfl
    rw [Directory.created_tellsAll, Deed.made_append, ← List.append_assoc] at hnew
    have hsound := hd.doesAll (List.nodup_append.mp hnew).1
    refine ⟨hsound, hsound.continues ?_⟩
    rw [Directory.map_id_doesAll]
    exact hnew

/-- A listener that selects every session as soon as it is told that it was made, and asks for one more when none is selected. -/
def doorkeeper : Announcement → List (Announcement × Directory) → Errand SessionCall (SessionAnswer Unit)
  | .sessionCreated id, _ => .ask (.select (some id)) fun _ => .done
  | .sessionSelected .null, _ => .ask .newSession fun _ => .done
  | _, _ => .done

/-- The host of such a listener. -/
def attended : Host Unit (StateM (Bureau Unit (Announcement × Directory))) :=
  Bureau.host (Directory.matter Unit) Service.sessionCall doorkeeper 3

/-- A session is made, one is asked for that is not there, and none is selected; then a draft is sent. -/
@[irreducible] def visited : List (SessionCall × SessionAnswer Unit) × Bureau Unit (Announcement × Directory) :=
  (askAll (Service.sessionCall attended) [.newSession, .select (some (.ofNat 7)), .select none, .send, .current]).run
    { service.roster := (({} : Roster Unit).register "echo" "Echo" ()).2 }

/-- Two sessions were made, and they are listed; the second one, made by the listener, is the current one. -/
theorem visited_sessions_stay :
    ∃ deeds : List (Deed Unit), visited.2.service.directory = ({} : Directory).doesAll deeds ∧
      Directory.Serves (fun _ => True) {} visited.1 deeds ∧ Deed.made deeds = [.ofNat 0, .ofNat 1] ∧
      ({} : Directory).Continues deeds := by
  obtain ⟨hcalls, -, hstay, -⟩ := sessions_stay_listed (π := Unit) (W := Bureau Unit (Announcement × Directory))
  have hvisited := hcalls attended (Bureau.ledger (Directory.matter Unit)) _ (Bureau.directory_supplies doorkeeper 3)
    { service.roster := (({} : Roster Unit).register "echo" "Echo" ()).2 } {} [] ⟨trivial, rfl, rfl⟩
    [.newSession, .select (some (.ofNat 7)), .select none, .send, .current]
  rw [← visited] at hvisited
  obtain ⟨deeds, -, hserves, hafter⟩ := hvisited
  have hmade : Deed.made deeds = [.ofNat 0, .ofNat 1] := by
    have hcreated : ((Bureau.ledger (Directory.matter Unit)).told visited.2).filterMap (fun t => t.1.created?) =
        [.ofNat 0, .ofNat 1] := by decide +kernel
    rw [hafter.told, List.nil_append, Directory.created_tellsAll] at hcreated
    exact hcreated
  refine ⟨deeds, hafter.part, hserves, hmade, (hstay {} Directory.isSound_new deeds ?_ [] deeds rfl).2⟩
  rw [Directory.created_tellsAll, hmade]
  decide

end Colloquy
