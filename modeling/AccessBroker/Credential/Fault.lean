/-
Why a credential is refused.

Whatever is wrong with a credential, a client learns only that it is invalid.
The other fault lies with the service: its key material cannot make a key.
-/

namespace AccessBroker

/-- Why a credential is refused. -/
inductive CredentialFault where
  | invalid
  | misconfigured
  deriving DecidableEq

namespace CredentialFault

/-- The sentence that names the fault. -/
def message : CredentialFault → String
  | invalid => "invalid credentials"
  | misconfigured => "credential cipher is misconfigured"

end CredentialFault

end AccessBroker
