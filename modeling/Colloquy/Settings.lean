import Colloquy.Error
import Colloquy.Json.Printer
import Colloquy.Json.Record
import Colloquy.Text.Blank
import Colloquy.Text.Lowercase

/-!
# Settings

The chat models that a host wants offered: which kind of provider answers for each, under which name, and with which
key. Settings are a JSON text; `Settings.ofText` reads it, `Settings.toJson` is what is written.
-/

namespace Colloquy

/-- The kinds of providers. -/
inductive ProviderKind where
  | echo
  | openai
  | anthropic
  deriving DecidableEq, Repr, Inhabited

namespace ProviderKind

/-- The tag of a kind in settings. -/
def tag : ProviderKind → String
  | .echo => "echo"
  | .openai => "openai"
  | .anthropic => "anthropic"

/-- All kinds. -/
def all : List ProviderKind :=
  [.echo, .openai, .anthropic]

/-- The kinds by tag. -/
def tagged : List (String × ProviderKind) :=
  all.map fun k => (k.tag, k)

/-- The kind with a tag. -/
def ofTag (tag : String) : Except Error ProviderKind :=
  match tagged.lookup tag with
  | some k => .ok k
  | none => .error (.config ("Unsupported provider: " ++ tag))

/-- Reads a kind. -/
def reader (depth : Nat) : Json.Reader ProviderKind :=
  Json.choice tagged depth

end ProviderKind

/-- A configured model. -/
structure ModelConfig where
  name : String
  provider : ProviderKind
  model : String := ""
  apiKey : String := ""
  baseUrl : Option String := none
  maxTokens : Option Nat := none
  deriving DecidableEq, Repr, Inhabited

/-- Each run of blanks as one hyphen. -/
def hyphenate : List Char → List Char
  | [] => []
  | c :: rest =>
    if Text.isBlank c then
      match rest with
      | d :: _ => if Text.isBlank d then hyphenate rest else '-' :: hyphenate rest
      | [] => ['-']
    else c :: hyphenate rest

namespace ModelConfig

/-- The identifier of the assistant: the name in lowercase with each run of blanks as one hyphen. -/
def identifier (c : ModelConfig) : String :=
  String.ofList (hyphenate (Text.lowercase c.name.toList))

/-- A model needs a name; one that a vendor serves also needs a model identifier and a key. -/
def validate (c : ModelConfig) : Except Error Unit :=
  if c.name.toList.all Text.isBlank then .error (.config "Model name must not be empty")
  else if c.provider = .echo then .ok ()
  else if c.model.isEmpty then .error (.config ("Model '" ++ c.name ++ "' has no model identifier"))
  else if c.apiKey.isEmpty then .error (.config ("Model '" ++ c.name ++ "' has no API key"))
  else .ok ()

/-- The JSON form, with the last two fields only when they are given. -/
def toJson (c : ModelConfig) : Json :=
  .obj ([("name", .str c.name), ("provider", .str c.provider.tag), ("model", .str c.model), ("api_key", .str c.apiKey)]
    ++ (c.baseUrl.map fun u => ("base_url", Json.str u)).toList
    ++ (c.maxTokens.map fun n => ("max_tokens", Json.nat n)).toList)

/-- The fields of a model as they are read. -/
structure Slots where
  name : Option String := none
  provider : Option ProviderKind := none
  model : Option String := none
  apiKey : Option String := none
  baseUrl : Option (Option String) := none
  maxTokens : Option (Option Nat) := none

/-- How a model is read. -/
def record : Json.Record Slots ModelConfig where
  title := "struct ModelConfig"
  fields := [
    .slot "name" (·.name) (fun s v => { s with name := some v }) fun _ => Json.string,
    .slot "provider" (·.provider) (fun s v => { s with provider := some v }) ProviderKind.reader,
    .slot "model" (·.model) (fun s v => { s with model := some v }) fun _ => Json.string,
    .slot "api_key" (·.apiKey) (fun s v => { s with apiKey := some v }) fun _ => Json.string,
    .slot "base_url" (·.baseUrl) (fun s v => { s with baseUrl := some v }) fun _ => Json.optional Json.string,
    .slot "max_tokens" (·.maxTokens) (fun s v => { s with maxTokens := some v }) fun _ => Json.optional Json.nat32]
  start := {}
  finish := fun s => do
    return ⟨← Json.need "name" s.name, ← Json.need "provider" s.provider, s.model.getD "", s.apiKey.getD "",
      s.baseUrl.join, s.maxTokens.join⟩

end ModelConfig

/-- The models to offer, in order, and the pause of echo assistants between two characters. -/
structure Settings where
  models : List ModelConfig
  echoDelayMs : Nat
  deriving DecidableEq, Repr, Inhabited

namespace Settings

/-- The pause of an echo assistant unless another is set. -/
def defaultEchoDelayMs : Nat := 10

/-- Settings without any model. -/
def default : Settings :=
  ⟨[], defaultEchoDelayMs⟩

/-- The first fault of a model, in order. -/
def validate (s : Settings) : Except Error Unit :=
  s.models.forM ModelConfig.validate

/-- The JSON form. -/
def toJson (s : Settings) : Json :=
  .obj [("models", .arr (s.models.map ModelConfig.toJson)), ("echo_delay_ms", .nat s.echoDelayMs)]

/-- The fields of settings as they are read. -/
structure Slots where
  models : Option (List ModelConfig) := none
  echoDelayMs : Option Nat := none

/-- How settings are read. -/
def record : Json.Record Slots Settings where
  title := "struct Settings"
  fields := [
    .slot "models" (·.models) (fun s v => { s with models := some v }) (Json.array ModelConfig.record.read),
    .slot "echo_delay_ms" (·.echoDelayMs) (fun s v => { s with echoDelayMs := some v }) fun _ => Json.nat64]
  start := {}
  finish := fun s => .ok ⟨s.models.getD [], s.echoDelayMs.getD defaultEchoDelayMs⟩

/-- Reads settings. -/
def ofText (text : String) : Except Error Settings :=
  let chars := text.toList
  (Json.Reader.all (record.read Json.depthLimit) chars).mapError fun fault => .json (fault.message chars)

end Settings

end Colloquy
