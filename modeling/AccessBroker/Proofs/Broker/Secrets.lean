/-
The secrets that a broker really uses.

A broker is made of the secrets of a configuration, or of what the variables hold that these refer
to (`exists_used`). After a load a secret that is given as it is shows a character; one that is given
by reference is not empty, but nothing else is asked of it (`Broker.used_of_load`), so that a broker
may be made of blanks (`Broker.exists_used_blank`).
-/
import AccessBroker.Proofs.CommandLine.Effective
import AccessBroker.Proofs.Config.Load
import AccessBroker.Proofs.Environment.Basic

namespace AccessBroker.Broker

open Environment

variable {file : Option Config.File} {env : Environment} {sources : Sources} {c : Config}
  {b : Broker}

/-- A broker is made of given secrets. -/
structure Uses (b : Broker) (c : Config) (used : Secret → String) : Prop where
  cipher : CookieCipher.make (used .password) (used .salt) c.version = .ok b.cipher
  validator : External.Validator.make (Text.Utf8.encode (used .shared)) c.external.word
    c.external.dateFormat = .ok b.validator

/-- **What a broker is made of are the secrets that are found.** -/
theorem exists_used (h : ofConfig c env sources = .ok b) :
    ∃ used, b.Uses c used ∧ ∀ s : Secret, env.resolve s.name (s.of c) = .ok (used s) := by
  obtain ⟨password, salt, secret, cipher, validator, classifier, hpassword, hsalt, hcipher, hsecret,
    hvalidator, -, rfl⟩ := ofConfig_eq_ok_iff.mp h
  refine ⟨fun s => s.casesOn (motive := fun _ => String) password salt secret,
    ⟨hcipher, hvalidator⟩, fun s => ?_⟩
  cases s with
  | password => exact hpassword
  | salt => exact hsalt
  | shared => exact hsecret

/-- A secret of a valid configuration shows a character. -/
theorem isBlankText_of_isValid (h : c.IsValid) (s : Secret) : Text.isBlankText (s.of c) = false := by
  obtain ⟨front, back, hrequired⟩ := s.exists_required c
  have hmem : (s.name, s.of c) ∈ c.required := by
    have hself := hrequired (s.of c)
    rw [s.isPart.set_get] at hself
    rw [hself]
    exact List.mem_append_right front List.mem_cons_self
  exact (Config.isValid_iff.mp h).2.2.1 _ hmem

/-- **The secrets in use after a load.** Each is what a variable holds that the setting refers to,
and not empty, or it is the setting itself, and shows a character. -/
theorem used_of_load (hc : Config.load file env = .ok c) (hb : ofConfig c env sources = .ok b) :
    ∃ used, b.Uses c used ∧ ∀ s : Secret,
      (∃ name, s.of c = reference name ∧ env.get? name = some (used s) ∧ used s ≠ "") ∨
      ((∀ name, s.of c ≠ reference name) ∧ used s = s.of c ∧ Text.isBlankText (used s) = false) := by
  obtain ⟨used, huses, hresolve⟩ := exists_used hb
  refine ⟨used, huses, fun s => ?_⟩
  rcases resolve_eq_ok_iff.mp (hresolve s) with hreference | ⟨hliteral, hused⟩
  · exact .inl hreference
  · refine .inr ⟨hliteral, hused, ?_⟩
    rw [hused]
    exact isBlankText_of_isValid (Config.isValid_of_load hc) s

/-- A file in which all secrets are given by reference. -/
def referringFile : Config.File := ⟨"hauth.yaml",
  some "cookie:\n  password: \"env:HAUTH_COOKIE_PASSWORD\"\n  salt: \"env:HAUTH_COOKIE_SALT\"\nexternal:\n  secret: \"env:HAUTH_EXTERNAL_SECRET\"\n"⟩

/-- The configuration of the file. -/
def referringConfig : Config :=
  .ofSecrets "env:HAUTH_COOKIE_PASSWORD" "env:HAUTH_COOKIE_SALT" "env:HAUTH_EXTERNAL_SECRET"

/-- The variables that the file refers to. -/
def referred (given : Secret → String) : Environment :=
  .ofList [("HAUTH_COOKIE_PASSWORD", given .password), ("HAUTH_COOKIE_SALT", given .salt),
    ("HAUTH_EXTERNAL_SECRET", given .shared)]

theorem resolve_referred {given : Secret → String} (hne : ∀ s, given s ≠ "") (s : Secret) :
    (referred given).resolve s.name (s.of referringConfig) = .ok (given s) := by
  refine resolve_eq_ok_iff.mpr (.inl ?_)
  cases s with
  | password => exact ⟨"HAUTH_COOKIE_PASSWORD", by decide, rfl, hne .password⟩
  | salt => exact ⟨"HAUTH_COOKIE_SALT", by decide, rfl, hne .salt⟩
  | shared => exact ⟨"HAUTH_EXTERNAL_SECRET", by decide, rfl, hne .shared⟩

/-- Variables of the right lengths make a broker, and it is made of what they hold. -/
theorem exists_uses_referred {given : Secret → String} (hne : ∀ s, given s ≠ "")
    (hlength : (Text.Utf8.encode (given .shared)).length = 16 ∨
      (Text.Utf8.encode (given .shared)).length = 24 ∨
      (Text.Utf8.encode (given .shared)).length = 32) :
    ∃ b, ofConfig referringConfig (referred given) (.ofConfig referringConfig) = .ok b ∧
      b.Uses referringConfig given := by
  have hresolve := resolve_referred hne
  obtain ⟨b, hb, -, -⟩ := exists_ofConfig referringConfig (referred given) (.ofConfig _)
    (hresolve .password) (hresolve .salt) ⟨hne .password, hne .salt⟩ (hresolve .shared) hlength rfl
  obtain ⟨used, huses, hused⟩ := exists_used hb
  have hsame : used = given := funext fun s =>
    Except.ok.inj ((hused s).symm.trans (hresolve s))
  exact ⟨b, hb, hsame ▸ huses⟩

/-- Secrets that show a character. -/
def shownSecrets : Secret → String
  | .password => "swordfish"
  | .salt => "salt"
  | .shared => "ThisPasswordIsReallyHardToGuess!"

/-- Secrets of blanks. -/
def blankSecrets : Secret → String
  | .password => " "
  | .salt => " "
  | .shared => "                "

/-- A broker is made of what the variables hold. -/
theorem used_of_load_referred : ∃ b,
    Config.load (some referringFile) (referred shownSecrets) = .ok referringConfig ∧
    ofConfig referringConfig (referred shownSecrets) (.ofConfig referringConfig) = .ok b ∧
    ∃ used, b.Uses referringConfig used ∧ ∀ s : Secret, ∃ name,
      s.of referringConfig = reference name ∧ (referred shownSecrets).get? name = some (used s) ∧
      used s ≠ "" := by
  have hload : Config.load (some referringFile) (referred shownSecrets) = .ok referringConfig :=
    eq_ok_of_toOption (by decide +kernel)
  have hne : ∀ s, shownSecrets s ≠ "" := fun s => by cases s <;> decide
  obtain ⟨b, hb, -⟩ := exists_uses_referred hne (.inr (.inr (by decide +kernel)))
  obtain ⟨used, huses, hall⟩ := used_of_load hload hb
  refine ⟨b, hload, hb, used, huses, fun s => (hall s).resolve_right ?_⟩
  rintro ⟨hliteral, -⟩
  cases s with
  | password => exact hliteral "HAUTH_COOKIE_PASSWORD" (by decide)
  | salt => exact hliteral "HAUTH_COOKIE_SALT" (by decide)
  | shared => exact hliteral "HAUTH_EXTERNAL_SECRET" (by decide)

/-- A broker is made of nothing but blanks. -/
theorem exists_used_blank : ∃ b,
    Config.load (some referringFile) (referred blankSecrets) = .ok referringConfig ∧
    ofConfig referringConfig (referred blankSecrets) (.ofConfig referringConfig) = .ok b ∧
    b.Uses referringConfig blankSecrets ∧ ∀ s, Text.isBlankText (blankSecrets s) = true := by
  have hload : Config.load (some referringFile) (referred blankSecrets) = .ok referringConfig :=
    eq_ok_of_toOption (by decide +kernel)
  have hne : ∀ s, blankSecrets s ≠ "" := fun s => by cases s <;> decide
  obtain ⟨b, hb, huses⟩ := exists_uses_referred hne (.inl (by decide +kernel))
  exact ⟨b, hload, hb, huses, fun s => by cases s <;> decide⟩

end AccessBroker.Broker
