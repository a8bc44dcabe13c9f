/-
What a valid configuration holds.

`isValid_iff` takes the check apart: no setting that is required is blank, the
port is not zero, and the word of external credentials holds no space. Of these
only the port hangs on where the service listens (`IsValid.fault?_listeningOn`).
The default settings leave only the secrets to be given (`isValid_ofSecrets_iff`).
-/
import AccessBroker.Config.Validation

namespace AccessBroker.Config

theorem isValid_iff {c : Config} : c.IsValid ↔
    c.server.port ≠ 0 ∧ Text.isBlankText c.version = false ∧
      (∀ setting ∈ c.required, Text.isBlankText setting.2 = false) ∧
      ' ' ∉ c.external.word.toList := by
  rw [IsValid, fault?]
  constructor
  · intro h
    split at h
    · cases h
    next hport =>
    split at h
    · cases h
    next hversion =>
    split at h
    · cases h
    next hrequired =>
    split at h
    · cases h
    next hword =>
    refine ⟨hport, Bool.eq_false_iff.mpr hversion, fun setting hmem => ?_, hword⟩
    exact Bool.eq_false_iff.mpr (List.find?_eq_none.mp hrequired setting hmem)
  · rintro ⟨hport, hversion, hrequired, hword⟩
    have hfind : c.required.find? (fun x => Text.isBlankText x.2) = none :=
      List.find?_eq_none.mpr fun setting hmem => by simp [hrequired setting hmem]
    rw [if_neg hport, hversion, if_neg Bool.false_ne_true]
    simp only [hfind, if_neg hword]

theorem IsValid.ne_empty {c : Config} (h : c.IsValid) {name value : String}
    (hmem : (name, value) ∈ c.required) : value ≠ "" := by
  have hblank : Text.isBlankText value = false := (isValid_iff.mp h).2.2.1 _ hmem
  rintro rfl
  exact absurd hblank (by decide)

/-- The configuration with another place to listen. -/
def listeningOn (c : Config) (host : String) (port : UInt16) : Config :=
  { c with server := { c.server with port, host } }

/-- Another place to listen leaves nothing to fault but its port. -/
theorem IsValid.fault?_listeningOn {c : Config} (h : c.IsValid) (host : String) (port : UInt16) :
    (c.listeningOn host port).fault? = if port = 0 then some .zeroPort else none := by
  split
  · next hport => exact if_pos hport
  · next hport => exact isValid_iff.mpr ⟨hport, (isValid_iff.mp h).2⟩

/-! ## Settings with secrets and defaults -/

/-- The default settings with the secrets, which have no default. -/
def ofSecrets (password salt secret : String) : Config :=
  { default with
    cookie := { default.cookie with password, salt }
    external := { default.external with secret } }

/-- The defaults pass the check, so that only the secrets are left to fault. -/
theorem isValid_ofSecrets_iff {password salt secret : String} :
    (ofSecrets password salt secret).IsValid ↔ Text.isBlankText password = false ∧
      Text.isBlankText salt = false ∧ Text.isBlankText secret = false := by
  have hname : Text.isBlankText default.cookie.name = false := by decide
  have hword : Text.isBlankText default.external.word = false := by decide
  have hformat : Text.isBlankText default.external.dateFormat = false := by decide
  have hciphertext : Text.isBlankText default.external.ciphertextCookie = false := by decide
  have hinitial : Text.isBlankText default.external.initialCookie = false := by decide
  have hserved : default.server.port ≠ 0 ∧ Text.isBlankText default.version = false ∧
      ' ' ∉ default.external.word.toList := by decide
  rw [isValid_iff]
  simp [ofSecrets, required, hname, hword, hformat, hciphertext, hinitial, hserved]

/-- The settings of the samples, with a password. -/
def sample (password : String) : Config :=
  ofSecrets password "salt" "ThisPasswordIsReallyHardToGuess!"

/-- The text of a file with these settings, but for lines at its top and lines for the cookie. -/
def sampleText (top cookie : String) : String :=
  top ++ "cookie:\n" ++ cookie ++
    "  salt: salt\nexternal:\n  secret: ThisPasswordIsReallyHardToGuess!\n"

end AccessBroker.Config
