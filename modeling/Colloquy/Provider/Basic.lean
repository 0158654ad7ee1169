import Colloquy.Provider.Anthropic
import Colloquy.Provider.Echo
import Colloquy.Provider.OpenAi
import Colloquy.Settings

/-!
# Providers

The three kinds of providers, what each does with a request, and how they are made from settings.
-/

namespace Colloquy

/-- What answers a request. -/
inductive Provider where
  | echo (delayMs : Nat)
  | openai (endpoint : Endpoint)
  | anthropic (endpoint : Endpoint) (maxTokens : Nat)
  deriving DecidableEq, Repr, Inhabited

namespace Provider

/-- The kind of a provider. -/
def kind : Provider → ProviderKind
  | .echo _ => .echo
  | .openai _ => .openai
  | .anthropic _ _ => .anthropic

/-- The name of a provider. -/
def name (p : Provider) : String :=
  p.kind.tag

/-- What a provider does with a request. -/
def perform : Provider → ChatRequest → Performance
  | .echo delayMs, request => Echo.perform delayMs request
  | .openai endpoint, request => OpenAi.perform endpoint request
  | .anthropic endpoint maxTokens, request => Anthropic.perform endpoint maxTokens request

/-- The provider of a configured model, which must be valid. -/
def ofConfig (c : ModelConfig) (echoDelayMs : Nat) : Except Error Provider := do
  c.validate
  match c.provider with
  | .echo => return .echo echoDelayMs
  | .openai => return .openai ⟨c.apiKey, c.model, c.baseUrl.getD OpenAi.defaultUrl⟩
  | .anthropic =>
    return .anthropic ⟨c.apiKey, c.model, c.baseUrl.getD Anthropic.defaultUrl⟩
      (c.maxTokens.getD Anthropic.defaultMaxTokens)

end Provider

/-- A provider ready to be registered. -/
structure ConfiguredProvider where
  id : String
  displayName : String
  provider : Provider
  deriving DecidableEq, Repr, Inhabited

/-- The providers of all configured models, in order; the first invalid model is an error. -/
def Settings.providers (s : Settings) : Except Error (List ConfiguredProvider) :=
  s.models.mapM fun c => do return ⟨c.identifier, c.name, ← Provider.ofConfig c s.echoDelayMs⟩

end Colloquy
