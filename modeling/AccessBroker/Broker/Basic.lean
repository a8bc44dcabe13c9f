/-
The broker: everything that is made of a configuration once.

The secrets are resolved, the keys made and the blocks of the privileged network
read, in this order, and the first of them that is no good stops the start.
-/
import AccessBroker.Config.Fault
import AccessBroker.Cookie.Settings
import AccessBroker.DegradedAccess
import AccessBroker.Item
import AccessBroker.Network.Classifier
import AccessBroker.Token.Exchange
import AccessBroker.Address.Endpoint

namespace AccessBroker

/-- Where the flags of origins and the modes of items come from. -/
structure Sources where
  degraded : String → Store.Answer Bool
  modes : String → Store.Answer (Option AccessMode)

namespace Sources

/-- The flags and modes that a configuration gives. -/
def ofConfig (c : Config) : Sources where
  degraded origin := .value ((DegradedAccess.ofList c.origins).allowed origin)
  modes item := .value ((ItemModes.ofList c.modes).get? item)

end Sources

/-- Everything that requests are answered with. -/
structure Broker where
  cipher : CookieCipher
  validator : External.Validator
  classifier : Network.Classifier
  sources : Sources
  cookie : Cookie.Settings
  /-- The names of the two cookies of an external credential. -/
  ciphertextCookie : String
  initialCookie : String
  expiresIn : Option UInt64
  trustForwardedFor : Bool
  requestTimeout : UInt64

namespace Broker

/-- A step of the start whose faults are named. -/
def named {ε α : Type} (name : ε → StartupFault) : Except ε α → Except StartupFault α
  | .ok a => .ok a
  | .error e => .error (name e)

/-- The broker for a configuration, with flags and modes from given sources. -/
def ofConfig (c : Config) (env : Environment) (sources : Sources) : Except StartupFault Broker := do
  let password ← named .secret (env.resolve "cookie.password" c.cookie.password)
  let salt ← named .secret (env.resolve "cookie.salt" c.cookie.salt)
  let cipher ← named (.key "cookie") (CookieCipher.make password salt c.version)
  let secret ← named .secret (env.resolve "external.secret" c.external.secret)
  let validator ← named (.key "external")
    (External.Validator.make (Text.Utf8.encode secret) c.external.word c.external.dateFormat)
  let classifier ← named .subnet (Network.Classifier.ofTexts c.subnets)
  .ok
    { cipher, validator, classifier, sources
      cookie := .ofConfig c.cookie
      ciphertextCookie := c.external.ciphertextCookie
      initialCookie := c.external.initialCookie
      expiresIn := c.expiresIn
      trustForwardedFor := c.server.trustForwardedFor
      requestTimeout := c.server.requestTimeout }

/-- The broker for a configuration alone. -/
def seeded (c : Config) (env : Environment) : Except StartupFault Broker :=
  ofConfig c env (.ofConfig c)

/-- The way to a token by the access cookie. -/
def primary (b : Broker) : TokenFlow := (PrimaryFlow.mk b.cipher b.cookie.name).flow

/-- The way to a token by an external credential. -/
def external (b : Broker) : TokenFlow :=
  (ExternalFlow.mk b.validator b.ciphertextCookie b.initialCookie b.cipher.version).flow

end Broker

namespace ServerConfig

/-- The host without brackets, with the port behind it; one with colons gets brackets again. -/
def bindText (s : ServerConfig) : String :=
  let front := s.host.toList.dropWhile (· = '[')
  let host := String.ofList (front.reverse.dropWhile (· = ']')).reverse
  let port := Text.natText s.port.toNat
  if ':' ∈ host.toList then "[" ++ host ++ "]:" ++ port else host ++ ":" ++ port

/-- The endpoint to listen on. -/
def endpoint (s : ServerConfig) : Except StartupFault Endpoint :=
  match Endpoint.ofText? s.bindText with
  | some e => .ok e
  | none => .error (.bindAddress s.bindText)

end ServerConfig

end AccessBroker
