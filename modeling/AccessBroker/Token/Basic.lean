/-
Access tokens.

A token says on which ground access is given: that a cookie was made on the
privileged network or not, or that a credential of the external application is
held. It is written as JSON in base 64; the two kinds differ in the name of
their flag, so neither is ever read as the other.
-/
import AccessBroker.Credential.Fault
import AccessBroker.Datum.Record
import AccessBroker.Encoding.Base64
import AccessBroker.Json.Record

namespace AccessBroker

/-- Why no token is given. -/
inductive TokenFault where
  /-- No credential was presented. -/
  | missingCredentials
  /-- The credential presented is no good. -/
  | invalidCredentials
  /-- No token can be given to anybody at present. -/
  | unavailable
  deriving DecidableEq

namespace TokenFault

/-- The faults by their names. -/
def named : List (String × TokenFault) :=
  [("missingCredentials", .missingCredentials), ("invalidCredentials", .invalidCredentials),
    ("unavailable", .unavailable)]

/-- The name of a fault. -/
def name : TokenFault → String
  | missingCredentials => "missingCredentials"
  | invalidCredentials => "invalidCredentials"
  | unavailable => "unavailable"

/-- Reads a fault in JSON. -/
def ofJson : Json → Except Datum.Cause TokenFault := Datum.variantOfJson "AccessTokenError" named

/-- The status of the answer that tells a machine. -/
def status : TokenFault → Nat
  | missingCredentials | invalidCredentials => 400
  | unavailable => 500

/-- The sentence that goes with the name. -/
def message : TokenFault → String
  | missingCredentials => "The credentials required for this request were not provided"
  | invalidCredentials => "The credentials provided are not valid"
  | unavailable => "The authorization service is unavailable"

/-- The fault of a refused credential. -/
def ofCredential : CredentialFault → TokenFault
  | .invalid => invalidCredentials
  | .misconfigured => unavailable

end TokenFault

/-- A token, with the version of the service that gives it. -/
inductive AccessToken where
  /-- For the holder of an access cookie; whether it was made on the privileged network. -/
  | campus (version : String) (onCampus : Bool)
  /-- For the holder of a credential of the external application. -/
  | affiliate (version : String) (isAffiliate : Bool)
  deriving DecidableEq

namespace AccessToken

/-- A token as a JSON object. -/
def toJson : AccessToken → Json
  | campus version flag => .object [("version", .text version), ("campusNetwork", .bool flag)]
  | affiliate version flag => .object [("version", .text version), ("sinaiAffiliate", .bool flag)]

/-- A version and a flag under the names given. -/
def pair? (flagName : String) (j : Json) : Option (String × Bool) := do
  match ← Json.Record.ofJson? ["version", flagName] j with
  | [some (.text version), some (.bool flag)] => some (version, flag)
  | _ => none

/-- Reads a token. -/
def ofJson? (j : Json) : Option AccessToken :=
  match pair? "campusNetwork" j with
  | some (version, flag) => some (campus version flag)
  | none => (pair? "sinaiAffiliate" j).map fun (version, flag) => affiliate version flag

/-- Reads a token, with the cause of a failure. -/
def ofJson (j : Json) : Except Datum.Cause AccessToken :=
  match ofJson? j with
  | some t => .ok t
  | none => .error (.noAlternative "AccessToken")

/-- The text of a token. -/
def encode (t : AccessToken) : String :=
  Encoding.Base64.encode (Text.Utf8.encode t.toJson.write)

/-- Reads the text of a token. -/
def decode? (s : String) : Option AccessToken := do
  let bytes ← Encoding.Base64.decode? s
  let j ← Json.ofBytes? bytes
  ofJson? j

end AccessToken

end AccessBroker
