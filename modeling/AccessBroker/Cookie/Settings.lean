/-
The cookie that a browser is told to keep.

The name and the value are sent with the bytes of some characters spelled out,
so that they hold nothing that ends a value or a name.
-/
import AccessBroker.Config.Basic
import AccessBroker.Text.Percent

namespace AccessBroker.Cookie

/-- How the cookie is kept, and how long its page stays open. -/
structure Settings where
  name : String
  /-- How many seconds the cookie is kept. -/
  maxAge : Option UInt64
  /-- Whether it travels over secure connections only, and then also from other sites. -/
  secure : Bool
  windowCloseDelay : UInt64
  deriving DecidableEq

/-- The settings of a configuration. -/
def Settings.ofConfig (c : CookieConfig) : Settings :=
  ⟨c.name, c.maxAge, c.secure, c.windowCloseDelay⟩

/-- The greatest age that is told. -/
def maxAgeLimit : Nat := Nat.pow 2 63 - 1

/-- The characters of names and values that are spelled out, beside those that always are. -/
def inCookie (c : Char) : Bool := " \"<>`#?\x7b\x7d/:;=@[\\]^|%(),".toList.contains c

/-- The attributes, in their order. -/
def Settings.attributes (s : Settings) : List String :=
  ["HttpOnly"] ++ (if s.secure then ["SameSite=None", "Secure"] else []) ++ ["Path=/"] ++
    match s.maxAge with
    | some n => ["Max-Age=" ++ Text.natText (min n.toNat maxAgeLimit)]
    | none => []

/-- A pair of a name and a value with the attributes. -/
def Settings.line (s : Settings) (name value : String) : String :=
  "; ".intercalate ((name ++ "=" ++ value) :: s.attributes)

/-- The cookie with a value, as it stands. -/
def Settings.plain (s : Settings) (value : String) : String := s.line s.name value

/-- The cookie with a value, as it is sent. -/
def Settings.encoded (s : Settings) (value : String) : String :=
  s.line (Text.Percent.encode inCookie s.name) (Text.Percent.encode inCookie value)

end AccessBroker.Cookie
