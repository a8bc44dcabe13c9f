/-
Why the service does not start.
-/
import AccessBroker.Config.Layers
import AccessBroker.Config.Validation
import AccessBroker.Environment.Basic
import AccessBroker.Credential.Fault
import AccessBroker.Network.Block

namespace AccessBroker

/-- Why the service does not start. -/
inductive StartupFault where
  /-- The configuration file is not there. -/
  | missingFile (name : String)
  /-- The configuration file does not hold a table of settings. -/
  | unreadableFile
  | misread (m : Config.Misread)
  | setting (f : SettingFault)
  | secret (f : SecretFault)
  /-- The named group of settings gives no key. -/
  | key (group : String) (f : CredentialFault)
  | subnet (f : Network.BlockFault)
  /-- The host and the port together are no address to listen on. -/
  | bindAddress (text : String)

/-- The sentence that names the reason. -/
def StartupFault.reason : StartupFault → String
  | missingFile name => "Config file not found: " ++ name
  | unreadableFile => "The config file does not hold a mapping"
  | misread m => m.message
  | setting f => f.message
  | secret f => f.message
  | key group f => group ++ ": " ++ f.message
  | subnet f => f.message
  | bindAddress text => "Invalid bind address " ++ text ++ ": invalid socket address syntax"

/-- The sentence that an operator is told. -/
def StartupFault.message (f : StartupFault) : String := "Configuration error: " ++ f.reason

end AccessBroker
