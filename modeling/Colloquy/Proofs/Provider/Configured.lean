import Colloquy.Provider.Basic

/-!
# Providers made from settings

A model that is valid is made into a provider of its kind (`ModelConfig.made`), and nothing else can go wrong. So the providers of some
settings are one for each model, in their order, unless the settings are not valid; the error is then that of their validation
(`Settings.providers_eq`), which is that of the first model that is not valid (`Settings.validate_eq_error_iff`).
-/

namespace Colloquy

/-- The provider that a model asks for. -/
def ModelConfig.made (c : ModelConfig) (echoDelayMs : Nat) : Provider :=
  match c.provider with
  | .echo => .echo echoDelayMs
  | .openai => .openai ⟨c.apiKey, c.model, c.baseUrl.getD OpenAi.defaultUrl⟩
  | .anthropic =>
    .anthropic ⟨c.apiKey, c.model, c.baseUrl.getD Anthropic.defaultUrl⟩ (c.maxTokens.getD Anthropic.defaultMaxTokens)

theorem ModelConfig.kind_made (c : ModelConfig) (echoDelayMs : Nat) : (c.made echoDelayMs).kind = c.provider := by
  unfold made
  cases c.provider <;> rfl

/-- To make the provider of a model fails just as its validation does. -/
theorem Provider.ofConfig_eq (c : ModelConfig) (echoDelayMs : Nat) :
    ofConfig c echoDelayMs = c.validate.map fun _ => c.made echoDelayMs := by
  unfold ofConfig ModelConfig.made
  cases c.validate with
  | error e => rfl
  | ok u => cases c.provider <;> rfl

namespace Settings

/-- The providers that the models ask for, in their order. -/
def configured (s : Settings) : List ConfiguredProvider :=
  s.models.map fun c => ⟨c.identifier, c.name, c.made s.echoDelayMs⟩

/-- Of models the providers are all made, or the first one that is not valid is the error. -/
theorem mapM_ofConfig (echoDelayMs : Nat) (models : List ModelConfig) :
    (models.mapM fun c => do return ConfiguredProvider.mk c.identifier c.name (← Provider.ofConfig c echoDelayMs)) =
      (models.forM ModelConfig.validate).map fun _ =>
        models.map fun c => ConfiguredProvider.mk c.identifier c.name (c.made echoDelayMs) := by
  induction models with
  | nil => rfl
  | cons c rest ih =>
    have hforM : (c :: rest).forM ModelConfig.validate = c.validate >>= fun _ => rest.forM ModelConfig.validate := rfl
    rw [List.mapM_cons, ih, Provider.ofConfig_eq, hforM]
    cases c.validate with
    | error e => rfl
    | ok u => cases rest.forM ModelConfig.validate <;> rfl

theorem providers_eq (s : Settings) : s.providers = s.validate.map fun _ => s.configured :=
  mapM_ofConfig s.echoDelayMs s.models

/-- The error of some settings is that of the first model that is not valid. -/
theorem validate_eq_error_iff {s : Settings} {e : Error} :
    s.validate = .error e ↔ ∃ before c later, s.models = before ++ c :: later ∧ (∀ b ∈ before, b.validate = .ok ()) ∧
      c.validate = .error e := by
  unfold validate
  generalize s.models = models
  induction models with
  | nil =>
    constructor
    · exact nofun
    · rintro ⟨before, c, later, hsplit, -⟩
      exact absurd hsplit.symm (by simp)
  | cons d rest ih =>
    have hforM : (d :: rest).forM ModelConfig.validate = d.validate >>= fun _ => rest.forM ModelConfig.validate := rfl
    rw [hforM]
    cases hd : d.validate with
    | error e' =>
      constructor
      · intro h
        exact ⟨[], d, rest, rfl, nofun, hd.trans h⟩
      · rintro ⟨before, c, later, hsplit, hbefore, hc⟩
        cases before with
        | nil =>
          obtain ⟨rfl, -⟩ := List.cons.inj hsplit
          exact hd.symm.trans hc
        | cons b before =>
          obtain ⟨rfl, -⟩ := List.cons.inj hsplit
          exact absurd (hd.symm.trans (hbefore d List.mem_cons_self)) nofun
    | ok u =>
      constructor
      · intro h
        obtain ⟨before, c, later, rfl, hbefore, hc⟩ := ih.mp h
        refine ⟨d :: before, c, later, rfl, ?_, hc⟩
        intro b hb
        rcases List.mem_cons.mp hb with rfl | hb
        · exact hd
        · exact hbefore b hb
      · rintro ⟨before, c, later, hsplit, hbefore, hc⟩
        cases before with
        | nil =>
          obtain ⟨rfl, -⟩ := List.cons.inj hsplit
          exact absurd (hd.symm.trans hc) nofun
        | cons b before =>
          obtain ⟨-, rfl⟩ := List.cons.inj hsplit
          exact ih.mpr ⟨before, c, later, rfl, fun x hx => hbefore x (List.mem_cons_of_mem b hx), hc⟩

end Settings

end Colloquy
