/-
Ways from the cookies of a request to a token.

A cookie that is not there is a missing credential. One that is there and is no
good is an invalid one.
-/
import AccessBroker.Cookie.Jar
import AccessBroker.Credential.AccessCookie
import AccessBroker.Credential.External
import AccessBroker.Token.Basic
import AccessBroker.Token.Client

namespace AccessBroker

/-- A way to a token, with its name. -/
structure TokenFlow where
  name : String
  issue : Cookie.Jar → Client → Date → Except TokenFault AccessToken

/-- The way by the access cookie. -/
structure PrimaryFlow where
  cipher : CookieCipher
  cookieName : String

namespace PrimaryFlow

/-- The token for the access cookie in a jar. -/
def issue (f : PrimaryFlow) (jar : Cookie.Jar) (client : Client) : Except TokenFault AccessToken :=
  match jar.get? f.cookieName with
  | none => .error .missingCredentials
  | some value =>
    match f.cipher.opened value client.address with
    | .ok cookie => .ok (.campus f.cipher.version cookie.campus)
    | .error e => .error (.ofCredential e)

/-- The way itself. -/
def flow (f : PrimaryFlow) : TokenFlow := ⟨"primary", fun jar client _ => f.issue jar client⟩

end PrimaryFlow

/-- The way by a credential of the external application. -/
structure ExternalFlow where
  validator : External.Validator
  ciphertextCookie : String
  initialCookie : String
  version : String

namespace ExternalFlow

/-- The token for the external credential in a jar on a day. -/
def issue (f : ExternalFlow) (jar : Cookie.Jar) (today : Date) : Except TokenFault AccessToken :=
  match jar.get? f.ciphertextCookie, jar.get? f.initialCookie with
  | some ciphertext, some initial =>
    match f.validator.check ciphertext initial today with
    | .ok () => .ok (.affiliate f.version true)
    | .error e => .error (.ofCredential e)
  | _, _ => .error .missingCredentials

/-- The way itself. -/
def flow (f : ExternalFlow) : TokenFlow := ⟨"external", fun jar _ today => f.issue jar today⟩

end ExternalFlow

end AccessBroker
