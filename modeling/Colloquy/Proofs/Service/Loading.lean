import Colloquy.Proofs.Assistant.Batches
import Colloquy.Proofs.Provider.Configured
import Colloquy.Service.Send

/-!
# Loading the configured models

To load settings is to make all providers first and to register them afterwards. So nothing at all happens unless every model is valid,
and then it is as if the assistants had been registered one after the other (`models_load_all_or_none`).
-/

namespace Colloquy

open Roster (Call Answer after registering registrations handlesFrom announcedOf IsTakenIn)

variable {π W : Type}

namespace Service

section

variable {m : Type → Type} [Monad m] [LawfulMonad m] (host : Host π m) (wrap : Provider → π)

/-- Loading fails before anything is registered, or registers all that is configured. -/
theorem loadModels_eq (s : Settings) :
    loadModels host wrap s =
      if s.models = [] then pure (.error (.config "No chat models configured"))
      else match s.validate with
        | .error e => pure (.error e)
        | .ok _ => .ok <$> registerAll host wrap s.configured := by
  rw [loadModels, s.providers_eq]
  by_cases hnone : s.models = []
  · rw [if_pos hnone, hnone]
    rfl
  · rw [if_neg hnone, if_neg (by simpa using hnone)]
    cases s.validate with
    | error e => rfl
    | ok _ => exact bind_pure_comp _ _

/-- Registering a batch is making its calls. -/
theorem askAll_registering (batch : List ConfiguredProvider) :
    askAll (call host) (registering wrap batch) =
      (fun handles => (registering wrap batch).zip (handles.map .handle)) <$> registerAll host wrap batch := by
  induction batch with
  | nil => simp only [registerAll, map_pure]; rfl
  | cons c rest ih =>
    have hfirst : registering wrap (c :: rest) = .register c.id c.displayName (wrap c.provider) :: registering wrap rest := rfl
    simp only [hfirst, askAll, call, registerAll, ih, bind_assoc, pure_bind, map_eq_pure_bind, List.map_cons, List.zip_cons_cons]

end

/-- The handles are those of the identifiers that were registered. -/
theorem ids_registerAll (host : Host π (StateM W)) (wrap : Provider → π) (batch : List ConfiguredProvider) (w : W) :
    ((registerAll host wrap batch).run w).1.map Registration.id = batch.map fun c => c.id := by
  induction batch generalizing w with
  | nil => rfl
  | cons c rest ih => exact congrArg (c.id :: ·) (ih _)

/-- In a host with a state, the answers are the handles, and both leave the same state. -/
theorem run_askAll_registering (host : Host π (StateM W)) (wrap : Provider → π) (batch : List ConfiguredProvider) (w : W) :
    (askAll (call host) (registering wrap batch)).run w =
      ((registering wrap batch).zip (((registerAll host wrap batch).run w).1.map .handle), ((registerAll host wrap batch).run w).2) := by
  rw [askAll_registering]
  rfl

variable {host : Host π (StateM W)} {l : Ledger (Roster.matter π) W} {may : Call π → Prop} {calls : List (Call π)}
  {told : List Announcement} {w : W}

/-- Where the listeners only listen, a batch is taken in as it stands. -/
theorem registerAll_of_quiet (h : host.Records l may) (hquiet : ∀ c, ¬may c) (hw : l.Holds w (after calls) told)
    (wrap : Provider → π) (batch : List ConfiguredProvider) :
    ((registerAll host wrap batch).run w).1 = handlesFrom (registrations calls) batch ∧
      l.Holds ((registerAll host wrap batch).run w).2 (after (calls ++ registering wrap batch))
        (told ++ batch.map fun c => .registered c.displayName) := by
  obtain ⟨all, -, hall, -, hsub, hafter⟩ := served_askAll h hw (registering wrap batch)
  obtain rfl := hall hquiet
  rw [run_askAll_registering] at hsub hafter
  have hlength : ((registerAll host wrap batch).run w).1.length = (registering wrap batch).length := by
    have hids := congrArg List.length (ids_registerAll host wrap batch w)
    rw [List.length_map, List.length_map] at hids
    rw [hids, registering, List.length_map]
  constructor
  · have hserved : (registering wrap batch).zip (((registerAll host wrap batch).run w).1.map .handle) =
        (Roster.serveAll (after calls) (registering wrap batch)).map fun s => (s.1, s.2.answer) := by
      refine hsub.eq_of_length ?_
      rw [List.length_zip, List.length_map, List.length_map, hlength, Nat.min_self, Roster.length_serveAll]
    have hanswers := congrArg (List.map Prod.snd) hserved
    rw [List.map_snd_zip (by rw [List.length_map]; exact Nat.le_of_eq hlength), List.map_map] at hanswers
    exact List.map_injective_iff.mpr (fun _ _ h => Answer.handle.inj h) (hanswers.trans (Roster.answers_registering calls batch))
  · rw [Roster.announced_registering] at hafter
    rw [after, Roster.run_append]
    exact hafter

/-- What comes of loading valid models where there are some: a handle for each, in order, and it is as if they had been registered one
after the other. So it all comes in one order with the calls of listeners; where these only listen, the roster takes in the batch, and
every name is announced once. -/
structure Loaded (host : Host π (StateM W)) (wrap : Provider → π) (s : Settings) (w : W) (handles : List Registration) : Prop where
  result : ((loadModels host wrap s).run w).1 = .ok handles
  ids : handles.map Registration.id = s.models.map ModelConfig.identifier
  registered : (askAll (call host) (registering wrap s.configured)).run w =
    ((registering wrap s.configured).zip (handles.map .handle), ((loadModels host wrap s).run w).2)
  inOrder : ∀ {l : Ledger (Roster.matter π) W} {may : Call π → Prop}, host.Records l may → ∀ {calls told}, l.Holds w (after calls) told →
    ServedInOrder host l may w (after calls) told (registering wrap s.configured)
  quiet : ∀ {l : Ledger (Roster.matter π) W} {may : Call π → Prop}, host.Records l may → (∀ c, ¬may c) → ∀ {calls told},
    l.Holds w (after calls) told → handles = handlesFrom (registrations calls) s.configured ∧
      l.Holds ((loadModels host wrap s).run w).2 (after (calls ++ registering wrap s.configured))
        (told ++ s.models.map fun c => .registered c.name)

theorem exists_loaded (host : Host π (StateM W)) (wrap : Provider → π) {s : Settings} (hsome : s.models ≠ [])
    (hvalid : s.validate = .ok ()) (w : W) : ∃ handles, Loaded host wrap s w handles := by
  have hload : loadModels host wrap s = .ok <$> registerAll host wrap s.configured := by
    rw [loadModels_eq, if_neg hsome, hvalid]
  have hrun : (loadModels host wrap s).run w =
      (.ok ((registerAll host wrap s.configured).run w).1, ((registerAll host wrap s.configured).run w).2) := by
    rw [hload]
    rfl
  refine ⟨((registerAll host wrap s.configured).run w).1, ?_, ?_, ?_, fun h _ _ hw => served_askAll h hw _, ?_⟩
  · rw [hrun]
  · rw [ids_registerAll, Settings.configured, List.map_map]
    rfl
  · rw [hrun, run_askAll_registering]
  · intro l may h hquiet calls told hw
    obtain ⟨hhandles, hafter⟩ := registerAll_of_quiet h hquiet hw wrap s.configured
    rw [Settings.configured, List.map_map] at hafter
    rw [hrun]
    exact ⟨hhandles, hafter⟩

end Service

/-- Loading the models of some settings.
1. The providers are made for all models in their order, under their identifiers and names and each of its kind, just if the settings are
   valid; else the error is that of the first model that is not valid.
2. Loading fails if there is no model, and with that error if one is not valid. It has then touched nothing: no assistant, no handle,
   not what is selected, and nothing is announced.
3. Else there is a handle for each model, and it is as if the assistants had been registered one after the other, in order, with the
   calls of listeners in between. Where listeners only listen, nothing else comes in between.
4. Whatever calls were made before, the roster then has of each identifier the last model with it, in the place that it had or else
   where the new ones come, in the order in which they first occur; and the handles of all other registrations of it are spent. -/
theorem models_load_all_or_none (wrap : Provider → π) (s : Settings) :
    (s.providers = s.validate.map (fun _ => s.configured) ∧
      s.configured.map (fun p => (p.id, p.displayName, p.provider.kind)) = s.models.map (fun c => (c.identifier, c.name, c.provider)) ∧
      ∀ e, s.validate = .error e ↔ ∃ before c later, s.models = before ++ c :: later ∧ (∀ b ∈ before, b.validate = .ok ()) ∧
        c.validate = .error e) ∧
    (∀ (m : Type → Type) [Monad m] [LawfulMonad m] (host : Host π m),
      (s.models = [] → Service.loadModels host wrap s = pure (.error (.config "No chat models configured"))) ∧
      ∀ e, s.models ≠ [] → s.validate = .error e → Service.loadModels host wrap s = pure (.error e)) ∧
    (s.models ≠ [] → s.validate = .ok () → ∀ (W : Type) (host : Host π (StateM W)) (w : W),
      ∃ handles, Service.Loaded host wrap s w handles) ∧
    ∀ calls : List (Call π), IsTakenIn wrap s.configured calls := by
  refine ⟨⟨s.providers_eq, ?_, fun _ => Settings.validate_eq_error_iff⟩, ?_, ?_, Roster.isTakenIn_after wrap s.configured⟩
  · rw [Settings.configured, List.map_map]
    refine List.map_congr_left ?_
    intro c _
    exact congrArg (fun kind => (c.identifier, c.name, kind)) (c.kind_made s.echoDelayMs)
  · intro m _ _ host
    constructor
    · intro hnone
      rw [Service.loadModels_eq, if_pos hnone]
    · intro e hsome hinvalid
      rw [Service.loadModels_eq, if_neg hsome, hinvalid]
  · intro hsome hvalid W host w
    exact Service.exists_loaded host wrap hsome hvalid w

/-- A host whose listeners only listen. -/
def listening : Host Provider (StateM (Bureau Provider Announcement)) :=
  Bureau.host (Roster.matter Provider) Service.call (fun _ _ => .done) 0

/-- Two of the names are one identifier, which is registered and selected already. -/
def twinNames : Settings :=
  ⟨[{ name := "Alpha  One", provider := .echo }, { name := "Beta", provider := .echo },
    { name := "ALPHA one", provider := .openai, model := "m", apiKey := "k" }], 5⟩

/-- The same with two models that are not valid. -/
def twinNamesAndFaults : Settings :=
  { twinNames with models := twinNames.models ++
      [{ name := "Gamma", provider := .anthropic, model := "m" }, { name := " ", provider := .echo }] }

/-- What was done before. -/
def alphaSelected : List (Call Provider) :=
  [.register "alpha-one" "Old" (.echo 1), .select "alpha-one"]

/-- The last of the twins stands where the old assistant did, and stays selected; the model without a key lets none be registered. -/
theorem twinNames_loaded :
    (∀ host : Host Provider (StateM (Bureau Provider Announcement)), Service.loadModels host id twinNamesAndFaults =
      pure (.error (.config "Model 'Gamma' has no API key"))) ∧
    ((Service.loadModels listening id twinNames).run { service.roster := after alphaSelected }).1 =
      .ok [⟨"alpha-one", 1⟩, ⟨"beta", 2⟩, ⟨"alpha-one", 3⟩] ∧
    (after (alphaSelected ++ registering id twinNames.configured)).ids = ["alpha-one", "beta"] ∧
    ((after (alphaSelected ++ registering id twinNames.configured)).serve (.deregister ⟨"alpha-one", 0⟩)).answer ≠ .removed true := by
  have hfaults := models_load_all_or_none (π := Provider) id twinNamesAndFaults
  have htwins := models_load_all_or_none (π := Provider) id twinNames
  obtain ⟨handles, hloaded⟩ := htwins.2.2.1 (by decide) rfl _ listening { service.roster := after alphaSelected }
  have hlistening : listening.Records (Bureau.ledger (Roster.matter Provider)) fun _ => False :=
    (Bureau.host_supplies_listening _ _).toRecords
  have hheld : (Bureau.ledger (Roster.matter Provider)).Holds { service.roster := after alphaSelected } (after alphaSelected) [] :=
    ⟨trivial, rfl, rfl⟩
  obtain ⟨hhandles, -⟩ := hloaded.quiet hlistening (fun _ => id) hheld
  have htaken := htwins.2.2.2 alphaSelected
  refine ⟨fun host => ?_, ?_, ?_, ?_⟩
  · exact (hfaults.2.1 _ host).2 _ (by decide) rfl
  · rw [hloaded.result, hhandles]
    exact congrArg Except.ok (by decide +kernel)
  · rw [htaken.ids]
    decide +kernel
  · rw [Ne, htaken.older _ (by decide)]
    rintro ⟨-, hnot⟩
    exact hnot (by decide +kernel)

end Colloquy
