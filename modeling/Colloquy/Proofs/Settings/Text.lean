import Colloquy.Proofs.Json.Printing
import Colloquy.Proofs.Json.Records
import Colloquy.Settings

/-!
# The text of settings

Settings are read from their text as what they were (`Settings.ofText_of_value`), if their numbers have the size in which they are read
(`Settings.Fits`).
-/

namespace Colloquy

open Json (Follows Exact)
open Json.Record (follows_read follows_slot gathers_optional)

namespace ProviderKind

theorem lookup_tag (k : ProviderKind) : tagged.lookup k.tag = some k := by
  cases k <;> rfl

theorem follows_reader (depth : Nat) : Follows (reader depth) fun v k => v = .str k.tag := by
  rintro depth' text rest _ k h rfl
  exact Json.follows_choice tagged depth h ⟨k.tag, rfl, lookup_tag k⟩

end ProviderKind

namespace ModelConfig

/-- The number of tokens is one of 32 bits. -/
def Fits (c : ModelConfig) : Prop :=
  ∀ n ∈ c.maxTokens, n ≤ 0xFFFFFFFF

instance (c : ModelConfig) : Decidable c.Fits :=
  inferInstanceAs (Decidable (∀ n ∈ c.maxTokens, n ≤ 0xFFFFFFFF))

theorem exact_toJson {c : ModelConfig} (h : c.Fits) : Exact 1 c.toJson := by
  refine .obj ?_
  intro f hf
  rcases List.mem_append.mp hf with hf | hf
  · rcases List.mem_append.mp hf with hf | hf
    · have htexts : f = ("name", .str c.name) ∨ f = ("provider", .str c.provider.tag) ∨ f = ("model", .str c.model) ∨
          f = ("api_key", .str c.apiKey) := by simpa using hf
      rcases htexts with rfl | rfl | rfl | rfl <;> exact .str _
    · obtain ⟨u, -, rfl⟩ := Option.map_eq_some_iff.mp (Option.mem_toList.mp hf)
      exact .str u
  · obtain ⟨n, hn, rfl⟩ := Option.map_eq_some_iff.mp (Option.mem_toList.mp hf)
    have hlimit := h n hn
    exact .int (by omega) (by omega)

/-- The slots that the fields of a model fill. -/
def filled (c : ModelConfig) : Slots :=
  ⟨some c.name, some c.provider, some c.model, some c.apiKey, c.baseUrl.map some, c.maxTokens.map some⟩

theorem finish_filled (c : ModelConfig) : record.finish c.filled = .ok c := by
  have hjoin {β : Type} (o : Option β) : (o.map some).join = o := by cases o <;> rfl
  have hfinish : record.finish c.filled =
      .ok ⟨c.name, c.provider, c.model, c.apiKey, (c.baseUrl.map some).join, (c.maxTokens.map some).join⟩ := rfl
  rw [hfinish, hjoin, hjoin]

/-- The last field fills the last slot, if it is there. -/
theorem gathers_maxTokens {c : ModelConfig} (h : c.Fits) (depth : Nat) :
    record.Gathers depth { c.filled with maxTokens := none } (c.maxTokens.map fun n => ("max_tokens", Json.nat n)).toList c.filled := by
  have hreader : Follows (Json.optional Json.nat32)
      fun v o => v = .null ∧ o = none ∨ ∃ n, (v = .nat n ∧ n ≤ 0xFFFFFFFF) ∧ o = some n :=
    Follows.optional (Json.follows_natUpTo _ _) (by simp [Json.nat])
  rw [← List.append_nil (Option.toList _)]
  refine gathers_optional rfl rfl ?_ ?_ .nil
  · intro hnone
    simp only [filled, hnone, Option.map_none]
  · intro n hn
    refine ⟨_, follows_slot (fun _ => Json.optional Json.nat32) hreader (Or.inr ⟨n, ⟨rfl, h n hn⟩, rfl⟩) _, ?_⟩
    simp only [filled, hn, Option.map_some]

/-- So does the field before it. -/
theorem gathers_baseUrl {c : ModelConfig} (h : c.Fits) (depth : Nat) :
    record.Gathers depth { c.filled with baseUrl := none, maxTokens := none }
      ((c.baseUrl.map fun u => ("base_url", Json.str u)).toList ++ (c.maxTokens.map fun n => ("max_tokens", Json.nat n)).toList)
      c.filled := by
  have hreader : Follows (Json.optional Json.string) fun v o => v = .null ∧ o = none ∨ ∃ u, v = .str u ∧ o = some u :=
    Follows.optional Json.follows_string (by simp)
  refine gathers_optional rfl rfl ?_ ?_ (gathers_maxTokens h depth)
  · intro hnone
    simp only [filled, hnone, Option.map_none]
  · intro u hu
    refine ⟨_, follows_slot (fun _ => Json.optional Json.string) hreader (Or.inr ⟨u, rfl, rfl⟩) _, ?_⟩
    simp only [filled, hu, Option.map_some]

/-- A model is read as what it was. -/
theorem follows_record (depth : Nat) : Follows (record.read (depth + 1)) fun v c => c.Fits ∧ v = c.toJson := by
  rintro depth' text rest _ c hv ⟨hfits, rfl⟩
  refine follows_read record depth hv ⟨_, c.filled, rfl, ?_, c.finish_filled⟩
  refine .take rfl rfl (follows_slot (fun _ => Json.string) Json.follows_string rfl _) ?_
  refine .take rfl rfl (follows_slot ProviderKind.reader (ProviderKind.follows_reader depth) rfl _) ?_
  refine .take rfl rfl (follows_slot (fun _ => Json.string) Json.follows_string rfl _) ?_
  exact .take rfl rfl (follows_slot (fun _ => Json.string) Json.follows_string rfl _) (gathers_baseUrl hfits depth)

end ModelConfig

namespace Settings

/-- The numbers of settings are of the sizes that they are read in. -/
structure Fits (s : Settings) : Prop where
  models : ∀ c ∈ s.models, c.Fits
  echoDelayMs : s.echoDelayMs ≤ 0xFFFFFFFFFFFFFFFF

instance (s : Settings) : Decidable s.Fits :=
  decidable_of_iff ((∀ c ∈ s.models, c.Fits) ∧ s.echoDelayMs ≤ 0xFFFFFFFFFFFFFFFF)
    ⟨fun h => ⟨h.1, h.2⟩, fun h => ⟨h.models, h.echoDelayMs⟩⟩

variable {s : Settings}

theorem exact_toJson (h : s.Fits) : Exact 3 s.toJson := by
  refine .obj ?_
  intro f hf
  rcases List.mem_cons.mp hf with rfl | hf
  · refine .arr ?_
    intro v hv
    obtain ⟨c, hc, rfl⟩ := List.mem_map.mp hv
    exact ModelConfig.exact_toJson (h.models c hc)
  · obtain rfl := List.mem_singleton.mp hf
    have hlimit := h.echoDelayMs
    exact .int (by omega) (by omega)

/-- Settings are read as what they were. -/
theorem follows_record (depth : Nat) : Follows (record.read (depth + 3)) fun v s => s.Fits ∧ v = s.toJson := by
  rintro depth' text rest _ s hv ⟨hfits, rfl⟩
  have hmodels : List.Forall₂ (fun v (c : ModelConfig) => c.Fits ∧ v = c.toJson) (s.models.map ModelConfig.toJson) s.models := by
    rw [List.forall₂_map_left_iff, List.forall₂_same]
    exact fun c hc => ⟨hfits.models c hc, rfl⟩
  refine follows_read record (depth + 2) hv ⟨_, ⟨some s.models, some s.echoDelayMs⟩, rfl, ?_, rfl⟩
  refine .take rfl rfl
    (follows_slot (Json.array ModelConfig.record.read) (Follows.array (ModelConfig.follows_record depth)) ⟨_, rfl, hmodels⟩ _) ?_
  exact .take rfl rfl (follows_slot (fun _ => Json.nat64) (Json.follows_natUpTo _ _) ⟨rfl, hfits.echoDelayMs⟩ _) .nil

/-- Settings are read from their text as what they were. -/
theorem ofText_of_value (h : s.Fits) {text : List Char} (htext : Json.Reader.all (Json.value 3) text = .ok s.toJson) :
    ofText (String.ofList text) = .ok s := by
  have hread : Json.Reader.all (record.read Json.depthLimit) text = .ok s := Follows.all (follows_record 124) htext ⟨h, rfl⟩
  unfold ofText
  rw [String.toList_ofList]
  exact congrArg (Except.mapError _) hread

end Settings

end Colloquy
