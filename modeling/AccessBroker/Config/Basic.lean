/-
The configuration of the service.

Every setting has a value of its own when it is not given. The secrets may be
given as they are, or as the name of an environment variable behind `env:`.
-/
import AccessBroker.Item

namespace AccessBroker

/-- Where and how the service listens. -/
structure ServerConfig where
  /-- The address to listen on. -/
  host : String
  port : UInt16
  /-- Whether a proxy in front may tell the address of the client. -/
  trustForwardedFor : Bool
  /-- How many seconds a request may take. -/
  requestTimeout : UInt64
  deriving DecidableEq

/-- How access cookies are made. -/
structure CookieConfig where
  password : String
  salt : String
  name : String
  /-- How many seconds a cookie is kept; until the browser closes if nothing is said. -/
  maxAge : Option UInt64
  /-- Whether the cookie travels over secure connections only. -/
  secure : Bool
  /-- How many seconds the page of the cookie stays open. -/
  windowCloseDelay : UInt64
  deriving DecidableEq

/-- How credentials of the external application are checked. -/
structure ExternalConfig where
  secret : String
  /-- The word that a credential begins with. -/
  word : String
  dateFormat : String
  /-- The name of the cookie with the encrypted text. -/
  ciphertextCookie : String
  /-- The name of the cookie with the initial block. -/
  initialCookie : String
  deriving DecidableEq

/-- All settings. -/
structure Config where
  /-- The version written on cookies and tokens. -/
  version : String
  server : ServerConfig
  cookie : CookieConfig
  external : ExternalConfig
  /-- The blocks of the privileged network, as texts. -/
  subnets : List String
  /-- The lifetime that is told with a token. -/
  expiresIn : Option UInt64
  /-- The origins that something is known of, and whether they may show a lower quality. -/
  origins : List (String × Bool)
  /-- The items that are known, and their access modes. -/
  modes : List (String × AccessMode)
  deriving DecidableEq

namespace Config

/-- The settings when none is given. -/
def default : Config where
  version := "1.0.0"
  server := ⟨"0.0.0.0", 8888, false, 30⟩
  cookie := ⟨"", "", "iiif-access", none, true, 1⟩
  external :=
    ⟨"", "Authenticated", "%Y-%m-%d %H:%M:%S UTC", "sinai_authenticated_3day",
      "initialization_vector"⟩
  subnets := []
  expiresIn := none
  origins := []
  modes := []

end Config

namespace ServerConfig

/-- The settings of the server as a JSON object. -/
def toJson (s : ServerConfig) : Json :=
  .object [("host", .text s.host), ("port", .ofNat s.port.toNat),
    ("trust_forwarded_for", .bool s.trustForwardedFor),
    ("request_timeout_secs", .ofWord s.requestTimeout)]

end ServerConfig

namespace CookieConfig

/-- The settings of the cookie as a JSON object. -/
def toJson (s : CookieConfig) : Json :=
  .object [("password", .text s.password), ("salt", .text s.salt), ("name", .text s.name),
    ("max_age_secs", .ofOption .ofWord s.maxAge), ("secure", .bool s.secure),
    ("window_close_delay_secs", .ofWord s.windowCloseDelay)]

end CookieConfig

namespace ExternalConfig

/-- The settings of external credentials as a JSON object. -/
def toJson (s : ExternalConfig) : Json :=
  .object [("secret", .text s.secret), ("valid_prefix", .text s.word),
    ("date_format", .text s.dateFormat), ("ciphertext_cookie", .text s.ciphertextCookie),
    ("iv_cookie", .text s.initialCookie)]

end ExternalConfig

namespace Config

/-- All settings as a JSON object. -/
def toJson (c : Config) : Json :=
  .object [("version", .text c.version), ("server", c.server.toJson), ("cookie", c.cookie.toJson),
    ("external", c.external.toJson),
    ("campus_network", .object [("subnets", .array (c.subnets.map .text))]),
    ("token", .object [("expires_in", .ofOption .ofWord c.expiresIn)]),
    ("degraded_access", .object [("origins", .object (c.origins.map fun (o, b) => (o, .bool b)))]),
    ("items", .object [("access_modes", .object (c.modes.map fun (i, m) => (i, m.toJson)))])]

end Config

end AccessBroker
