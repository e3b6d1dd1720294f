/-!
# Core - Names that the packages share

Main results: none; the module declares the enumerations of the protocol.
-/

namespace TokenStreaming
namespace Core

inductive ProductMode where
  | economy
  | auto
  | max
deriving DecidableEq

def ProductMode.text : ProductMode → String
  | .economy => "economy"
  | .auto => "auto"
  | .max => "max"

/-- {lit}`ProviderName`. -/
inductive ProviderName where
  | stub
  | openai
  | anthropic
  | gemini
  | codex
  | auto
deriving DecidableEq

def ProviderName.text : ProviderName → String
  | .stub => "stub"
  | .openai => "openai"
  | .anthropic => "anthropic"
  | .gemini => "gemini"
  | .codex => "codex"
  | .auto => "auto"

inductive ModelCallPurpose where
  | planning
  | repair
  | agent
deriving DecidableEq

def ModelCallPurpose.text : ModelCallPurpose → String
  | .planning => "planning"
  | .repair => "repair"
  | .agent => "agent"

end Core
end TokenStreaming
