import Reckoner.Config.Settings
import Reckoner.Gateway.Canned
import Reckoner.Text.Blank
import Reckoner.Web.Address

namespace Reckoner.Gateway

open Reckoner.Decimal Reckoner.Text

/-- A model server: where it is, and the addresses that it is asked at. -/
structure Server where
  baseUrl : String
  defaults : Defaults
  timeout : Double

/-- A base address has no slash at its end. -/
def Server.new (baseUrl : String) (defaults : Defaults) (timeout : Double) : Server :=
  ⟨String.ofList (dropEndWhile (· == '/') baseUrl.toList), defaults, timeout⟩

def Server.generateUrl (s : Server) : String :=
  Web.canonicalAddress (s.baseUrl ++ "/api/generate")

def Server.probeUrl (s : Server) : String :=
  Web.canonicalAddress (s.baseUrl ++ "/api/tags")

/-- The gateway that the settings ask for: laid-out replies, or a model server. -/
inductive Provider where
  | canned (defaults : Defaults)
  | server (s : Server)

def defaultsOf (s : Config.Settings) : Defaults :=
  ⟨s.model, .real s.temperature⟩

/-- The name of the provider is read in any letter case. -/
def Provider.ofSettings (s : Config.Settings) : Except GatewayFailure Provider :=
  match lower s.provider with
  | "fake" => .ok (.canned (defaultsOf s))
  | "ollama" => .ok (.server (Server.new s.baseUrl (defaultsOf s) s.timeout))
  | _ => .error (.other ("Unsupported LLM provider '" ++ s.provider ++ "'"))

end Reckoner.Gateway
