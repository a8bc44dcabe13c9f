/-
What a run of the program comes to.

A run is decided by its arguments, its environment and the configuration file.
The commands share one way of loading: options for port and host replace what
was loaded, after it was checked. Checking and serving need the same things to
be good; classifying needs only the blocks of the privileged network.

The log is left out. Its lines go to the output too, but they depend on the time
and on how much is to be logged; what is said of the output here is said of all
that is printed there beside the log.
-/
import AccessBroker.Broker.Basic
import AccessBroker.CommandLine.Arguments
import AccessBroker.Config.Load

namespace AccessBroker.CommandLine

/-- What a run comes to. -/
inductive Outcome where
  /-- The arguments are no good. -/
  | misused (f : Misuse)
  /-- The program tells of itself. -/
  | told (text : String)
  /-- The configuration cannot be loaded, or the service not started; only the log tells of it. -/
  | failed (f : StartupFault)
  /-- A command ends well, with a text for its output. -/
  | succeeded (output : String)
  /-- A command ends with a fault that is printed. -/
  | refused (f : StartupFault)
  /-- The service is ready to listen on an endpoint. -/
  | serves (b : Broker) (e : Endpoint)

namespace Outcome

/-- The exit code. No socket is opened here, so a service that is ready ends as one that gets none. -/
def code : Outcome → Nat
  | misused _ => 2
  | failed _ | refused _ | serves _ _ => 1
  | told _ | succeeded _ => 0

/-- What is printed on the output, lines of the log apart. -/
def output : Outcome → String
  | told text => text
  | succeeded text => text
  | _ => ""

/-- What is printed on the output for errors. -/
def errors : Outcome → String
  | misused f => "error: " ++ f.message ++ "\n"
  | refused f => "❌ " ++ f.message ++ "\n"
  | _ => ""

end Outcome

/-- The name and the version of the program. -/
def version : String := "hauth 1.0.0\n"

/-- How the program is called. -/
def usage : String := "Usage: hauth [OPTIONS] [serve | check-config | classify <IP>]\n"

/-- Loads the configuration that arguments ask for; port and host replace what was loaded. -/
def load (g : Given) (file : String → Option String) (env : Environment) :
    Except StartupFault Config := do
  let c ← Config.load (g.config.map fun name => ⟨name, file name⟩) env
  .ok { c with
    server := { c.server with
      port := g.port.getD c.server.port
      host := g.host.getD c.server.host } }

/-- A line of the summary. -/
def line (label value : String) : String := "   " ++ label ++ value ++ "\n"

/-- The summary of a configuration with which a broker could be made. -/
def summary (c : Config) (b : Broker) : String :=
  "✅ Configuration is valid\n\n" ++
    line "Version:          " c.version ++
    line "Listen:           " (c.server.host ++ ":" ++ Text.natText c.server.port.toNat) ++
    line "Cookie:           "
      (b.cookie.name ++ " (secure=" ++ (if b.cookie.secure then "true" else "false") ++ ")") ++
    line "Cookie password:  " "set" ++
    line "Cookie salt:      " "set" ++
    line "External secret:  " "set" ++
    line "External prefix:  " c.external.word ++
    line "External cookies: " (c.external.ciphertextCookie ++ ", " ++ c.external.initialCookie) ++
    line "Token expiresIn:  "
      (match c.expiresIn with
        | some n => Text.natText n.toNat ++ "s"
        | none => "not advertised") ++
    line "Degraded origins: " (Text.natText c.origins.length) ++
    line "Item modes:       " (Text.natText c.modes.length) ++
    line "Campus subnets:   " (Text.natText b.classifier.blocks.length) ++
    String.join (b.classifier.blocks.map fun block => line "  " block.text)

/-- Checks a configuration. -/
def checkConfig (g : Given) (file : String → Option String) (env : Environment) : Outcome :=
  match load g file env with
  | .error f => .failed f
  | .ok c =>
    match c.server.endpoint with
    | .error f => .refused f
    | .ok _ =>
      match Broker.seeded c env with
      | .error f => .refused f
      | .ok b => .succeeded (summary c b)

/-- The sentence about an address. -/
def classified (c : Network.Classifier) (a : Address) : String :=
  a.text ++ (if c.isPrivileged a then ": campus network\n" else ": not on the campus network\n")

/-- Tells whether an address is on the privileged network. -/
def classify (g : Given) (a : Address) (file : String → Option String) (env : Environment) :
    Outcome :=
  match load g file env with
  | .error f => .failed f
  | .ok c =>
    match Network.Classifier.ofTexts c.subnets with
    | .error f => .refused (.subnet f)
    | .ok classifier => .succeeded (classified classifier a)

/-- Makes the broker and finds the endpoint to listen on. -/
def serve (g : Given) (file : String → Option String) (env : Environment) : Outcome :=
  match load g file env with
  | .error f => .failed f
  | .ok c =>
    match Broker.seeded c env with
    | .error f => .failed f
    | .ok b =>
      match c.server.endpoint with
      | .error f => .failed f
      | .ok e => .serves b e

/-- Does what arguments ask for. -/
def perform (file : String → Option String) (env : Environment) : Asked → Outcome
  | .version => .told version
  | .help | .run .help _ => .told usage
  | .run .serve g => serve g file env
  | .run .checkConfig g => checkConfig g file env
  | .run .classify g =>
    match g.address with
    | some a => classify g a file env
    | none => .misused .missingAddress

/-- What a run comes to. -/
def run (args : List String) (file : String → Option String) (env : Environment) : Outcome :=
  match read env args with
  | .error f => .misused f
  | .ok asked => perform file env asked

end AccessBroker.CommandLine
