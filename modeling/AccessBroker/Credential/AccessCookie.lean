/-
The access cookie.

A cookie states for which address it was made, whether that address was on the
privileged network, and whether the viewer's origin may show a lower quality.
`sealed` encrypts these facts under a key made from a password and a salt and
puts them, with the initial block of the encryption, into an envelope of JSON
in base 64. `opened` takes the steps back and refuses whatever does not fit, an
address other than the one presenting the cookie included.
-/
import AccessBroker.Address.Basic
import AccessBroker.Cipher.Chaining
import AccessBroker.Cipher.KeyDerivation
import AccessBroker.Credential.Fault
import AccessBroker.Encoding.Base64
import AccessBroker.Json.Record
import AccessBroker.Text.Blank
import AccessBroker.Text.Debug

namespace AccessBroker

/-- The facts sealed into a cookie. -/
structure AccessCookie where
  /-- The address the cookie was made for, in canonical form. -/
  address : String
  /-- Whether that address was on the privileged network. -/
  campus : Bool
  /-- Whether the origin may show a lower quality. -/
  degraded : Bool
  deriving DecidableEq

namespace AccessCookie

/-- The facts for an address. -/
def of (a : Address) (campus degraded : Bool) : AccessCookie :=
  ⟨a.canonicalText, campus, degraded⟩

/-- The names of the facts, in their order. -/
def fields : List String := ["client-ip-address", "campus-network", "degraded-allowed"]

/-- The facts as a JSON object. -/
def toJson (c : AccessCookie) : Json :=
  .object [("client-ip-address", .text c.address), ("campus-network", .bool c.campus),
    ("degraded-allowed", .bool c.degraded)]

/-- The facts as bytes. -/
def bytes (c : AccessCookie) : List UInt8 := Text.Utf8.encode c.toJson.write

/-- Reads the facts; each must be there. -/
def ofBytes? (bytes : List UInt8) : Option AccessCookie := do
  let t ← Json.Tree.ofBytes? bytes
  match ← Json.Record.ofTree? fields t with
  | [some address, some campus, some degraded] =>
    some ⟨← address.text?, ← campus.bool?, ← degraded.bool?⟩
  | _ => none

end AccessCookie

/-- What a sealed cookie shows: the version of the service that sealed it, the encrypted facts and
the initial block of the encryption, the latter two in base 64. -/
structure Envelope where
  version : String
  secret : String
  nonce : String
  deriving DecidableEq

namespace Envelope

/-- The names of the parts, in their order. -/
def fields : List String := ["version", "secret", "nonce"]

/-- An envelope as a JSON object. -/
def toJson (e : Envelope) : Json :=
  .object [("version", .text e.version), ("secret", .text e.secret), ("nonce", .text e.nonce)]

/-- The text of an envelope. -/
def text (e : Envelope) : String := Encoding.Base64.encode (Text.Utf8.encode e.toJson.write)

/-- Reads an envelope; each part must be there. -/
def ofBytes? (bytes : List UInt8) : Option Envelope := do
  let t ← Json.Tree.ofBytes? bytes
  match ← Json.Record.ofTree? fields t with
  | [some version, some secret, some nonce] =>
    some ⟨← version.text?, ← secret.text?, ← nonce.text?⟩
  | _ => none

end Envelope

/-- A key to seal and open cookies with, and the version written on the envelopes. -/
structure CookieCipher where
  key : Cipher.Aes.Schedule
  version : String

namespace CookieCipher

/-- The stretched form of the key for a password and a salt. -/
def keyFor? (password salt : String) : Option Cipher.Aes.Schedule :=
  Cipher.Aes.Schedule.ofKey?
    (Cipher.KeyDerivation.derive (Text.Utf8.encode password) (Text.Utf8.encode salt))

/-- A cipher with a key from a password and a salt, neither of which may be empty. -/
def make (password salt version : String) : Except CredentialFault CookieCipher :=
  if password.isEmpty || salt.isEmpty then .error .misconfigured
  else
    match keyFor? password salt with
    | some key => .ok ⟨key, version⟩
    | none => .error .misconfigured

/-- What may be shown of a cipher: its version, never its key. -/
def debug (c : CookieCipher) : String :=
  "AccessCookieCipher \x7b version: " ++ Text.debug c.version ++ ", .. \x7d"

/-- The encrypted facts. -/
def secret (c : CookieCipher) (initial : Cipher.Aes.Block) (cookie : AccessCookie) : List UInt8 :=
  Cipher.encrypt c.key initial cookie.bytes

/-- The envelope of a cookie. -/
def envelope (c : CookieCipher) (initial : Cipher.Aes.Block) (cookie : AccessCookie) : Envelope :=
  ⟨c.version, Encoding.Base64.encode (c.secret initial cookie),
    Encoding.Base64.encode initial.bytes⟩

/-- Seals a cookie with an initial block, which should be drawn afresh each time. -/
def sealed (c : CookieCipher) (initial : Cipher.Aes.Block) (cookie : AccessCookie) : String :=
  (c.envelope initial cookie).text

/-- Takes the facts out of an envelope. -/
def openEnvelope? (c : CookieCipher) (e : Envelope) : Option AccessCookie := do
  let secret ← Encoding.Base64.decode? e.secret
  let nonce ← Encoding.Base64.decode? e.nonce
  let initial ← Cipher.initial? nonce
  let plain ← Cipher.decrypt? c.key initial secret
  AccessCookie.ofBytes? plain

/-- Takes the facts out of a sealed cookie, whoever presents it. -/
def unseal? (c : CookieCipher) (value : String) : Option AccessCookie := do
  let raw ← Encoding.Base64.decode? (Text.trim value)
  let e ← Envelope.ofBytes? raw
  c.openEnvelope? e

/-- Opens a sealed cookie for the address that presents it. -/
def opened (c : CookieCipher) (value : String) (presenter : Address) :
    Except CredentialFault AccessCookie :=
  match c.unseal? value with
  | some cookie => if cookie.address = presenter.canonicalText then .ok cookie else .error .invalid
  | none => .error .invalid

end CookieCipher

end AccessBroker
