import Reckoner.Chat.Assistant
import Reckoner.Gateway.Provider
import Reckoner.Log.Line
import Reckoner.Web.Trouble

namespace Reckoner.Web

open Reckoner.Gateway

/-- The service on the web: its settings, the client of the tracing service if one is there, the assistant behind it,
and the gateway that the settings ask for, if there is one. -/
structure Service where
  settings : Config.Settings
  client : Option Config.Client
  assistant : Chat.Assistant
  gateway : Except GatewayFailure Canned

/-- Why a service cannot start. -/
inductive StartFault where
  | unsettled (u : Config.Unsettled)
  | unknownLevel

def StartFault.levelMessage : String := "Unable to configure logger 'palchat'"

namespace Service

def gatewayOf (s : Config.Settings) : Except GatewayFailure Canned :=
  match Provider.ofSettings s with
  | .ok (.canned d) => .ok (.new d)
  | .ok (.server v) => .ok (.offline v.defaults)
  | .error f => .error f

def assistantOf (s : Config.Settings) : Chat.Assistant where
  store := .empty
  feed := if s.enableEvents then some (.new Feed.usualLimit) else none
  issued := 0
  manner := ⟨.real s.extractionTemperature, .real s.formattingTemperature⟩
  showStages := s.showPipeline

def ofSettings (client : Option Config.Client) (s : Config.Settings) : Service :=
  ⟨s, client, assistantOf s, gatewayOf s⟩

def start (depth : Nat) (client : Option Config.Client) (sources : Config.Sources) :
    Except StartFault Service :=
  match Config.Settings.load depth sources with
  | .error u => .error (.unsettled u)
  | .ok s =>
    if (Log.rank? (Text.upper s.logLevel)).isNone then .error .unknownLevel else .ok (ofSettings client s)

/-- The gateway for a conversation, where runs are traced if they are to be. -/
def conversationGateway (s : Service) : Except Trouble Canned :=
  match s.gateway, s.settings.tracing.tracers s.client with
  | .error f, _ => .error (.failure (.gateway f))
  | .ok _, .error _ => .error .breakdown
  | .ok g, .ok _ => .ok g

end Service

end Reckoner.Web
