/-
What a broker is made of.

`ofConfig_eq_ok_iff` says when a configuration makes a broker and which: every
secret is found, every key made and every block read, and the broker holds these
and the settings that requests are answered with. `sorts_primary` and
`sorts_external` say what its two ways to a token come to.
-/
import AccessBroker.Broker.Basic
import AccessBroker.Proofs.Config.Validation
import AccessBroker.Proofs.Credential.AccessCookie
import AccessBroker.Proofs.Credential.External
import AccessBroker.Proofs.Token.Flow

namespace AccessBroker.Broker

theorem bind_eq_ok_iff {ε α β : Type} {x : Except ε α} {f : α → Except ε β} {b : β} :
    x >>= f = .ok b ↔ ∃ a, x = .ok a ∧ f a = .ok b := by
  cases x with
  | error e => simp [bind, Except.bind]
  | ok a => simp [bind, Except.bind]

theorem eq_ok_of_toOption {ε α : Type} {x : Except ε α} {a : α} (h : x.toOption = some a) :
    x = .ok a := by
  cases x with
  | error e => cases h
  | ok b => rw [Option.some.inj h]

theorem named_eq_ok_iff {ε α : Type} {name : ε → StartupFault} {x : Except ε α} {a : α} :
    named name x = .ok a ↔ x = .ok a := by
  cases x with
  | error e => simp [named]
  | ok a => simp [named]

/-- **What a broker is made of.** -/
theorem ofConfig_eq_ok_iff {c : Config} {env : Environment} {sources : Sources} {b : Broker} :
    ofConfig c env sources = .ok b ↔ ∃ password salt secret cipher validator classifier,
      env.resolve "cookie.password" c.cookie.password = .ok password ∧
      env.resolve "cookie.salt" c.cookie.salt = .ok salt ∧
      CookieCipher.make password salt c.version = .ok cipher ∧
      env.resolve "external.secret" c.external.secret = .ok secret ∧
      External.Validator.make (Text.Utf8.encode secret) c.external.word c.external.dateFormat =
        .ok validator ∧
      Network.Classifier.ofTexts c.subnets = .ok classifier ∧
      b =
        { cipher, validator, classifier, sources
          cookie := .ofConfig c.cookie
          ciphertextCookie := c.external.ciphertextCookie
          initialCookie := c.external.initialCookie
          expiresIn := c.expiresIn
          trustForwardedFor := c.server.trustForwardedFor
          requestTimeout := c.server.requestTimeout } := by
  simp only [ofConfig, bind_eq_ok_iff, named_eq_ok_iff, Except.ok.injEq]
  constructor
  · rintro ⟨password, hpassword, salt, hsalt, cipher, hcipher, secret, hsecret, validator,
      hvalidator, classifier, hclassifier, rfl⟩
    exact ⟨password, salt, secret, cipher, validator, classifier, hpassword, hsalt, hcipher,
      hsecret, hvalidator, hclassifier, rfl⟩
  · rintro ⟨password, salt, secret, cipher, validator, classifier, hpassword, hsalt, hcipher,
      hsecret, hvalidator, hclassifier, rfl⟩
    exact ⟨password, hpassword, salt, hsalt, cipher, hcipher, secret, hsecret, validator,
      hvalidator, classifier, hclassifier, rfl⟩

/-- Secrets that are found and have the right lengths, and blocks that can be read, make a broker. -/
theorem exists_ofConfig (c : Config) (env : Environment) (sources : Sources)
    {password salt secret : String} {classifier : Network.Classifier}
    (hpassword : env.resolve "cookie.password" c.cookie.password = .ok password)
    (hsalt : env.resolve "cookie.salt" c.cookie.salt = .ok salt)
    (hshown : password ≠ "" ∧ salt ≠ "")
    (hsecret : env.resolve "external.secret" c.external.secret = .ok secret)
    (hlength : (Text.Utf8.encode secret).length = 16 ∨ (Text.Utf8.encode secret).length = 24 ∨
      (Text.Utf8.encode secret).length = 32)
    (hsubnets : Network.Classifier.ofTexts c.subnets = .ok classifier) :
    ∃ b, ofConfig c env sources = .ok b ∧ b.classifier = classifier ∧ b.sources = sources := by
  obtain ⟨key, -, hcipher⟩ := CookieCipher.make_eq_ok hshown.1 hshown.2
  obtain ⟨key', -, hvalidator⟩ := External.Validator.make_eq_ok hlength
  exact ⟨_, ofConfig_eq_ok_iff.mpr ⟨password, salt, secret, _, _, classifier, hpassword, hsalt,
    hcipher c.version, hsecret, hvalidator _ _, hsubnets, rfl⟩, rfl, rfl⟩

/-- The secrets of the samples make a broker. -/
theorem exists_ofConfig_sample {c : Config} (sources : Sources) {classifier : Network.Classifier}
    (hcookie : c.cookie = (Config.sample "password").cookie)
    (hexternal : c.external = (Config.sample "password").external)
    (hsubnets : Network.Classifier.ofTexts c.subnets = .ok classifier) :
    ∃ b, ofConfig c .empty sources = .ok b ∧ b.classifier = classifier ∧ b.sources = sources := by
  have hlength : (Text.Utf8.encode "ThisPasswordIsReallyHardToGuess!").length = 32 := by
    decide +kernel
  have hpassword : Environment.resolve .empty "cookie.password" c.cookie.password =
      .ok "password" := by
    rw [hcookie]
    rfl
  have hsalt : Environment.resolve .empty "cookie.salt" c.cookie.salt = .ok "salt" := by
    rw [hcookie]
    rfl
  have hsecret : Environment.resolve .empty "external.secret" c.external.secret =
      .ok "ThisPasswordIsReallyHardToGuess!" := by
    rw [hexternal]
    rfl
  exact exists_ofConfig c .empty sources hpassword hsalt ⟨by decide, by decide⟩ hsecret
    (.inr (.inr hlength)) hsubnets

/-- The settings of a configuration that its broker answers with. -/
theorem settings_of_ofConfig {c : Config} {env : Environment} {sources : Sources} {b : Broker}
    (h : ofConfig c env sources = .ok b) : b.cipher.version = c.version ∧
      b.cookie = .ofConfig c.cookie ∧ b.trustForwardedFor = c.server.trustForwardedFor := by
  obtain ⟨password, salt, secret, cipher, validator, classifier, -, -, hcipher, -, -, -, rfl⟩ :=
    ofConfig_eq_ok_iff.mp h
  exact ⟨CookieCipher.version_of_make hcipher, rfl, rfl⟩

/-- The blocks that a broker classifies its clients by. -/
theorem classifier_of_ofConfig {c : Config} {env : Environment} {sources : Sources} {b : Broker}
    (h : ofConfig c env sources = .ok b) :
    Network.Classifier.ofTexts c.subnets = .ok b.classifier := by
  obtain ⟨_, _, _, _, _, classifier, -, -, -, -, -, hclassifier, rfl⟩ := ofConfig_eq_ok_iff.mp h
  exact hclassifier

/-- The names of the two cookies of an external credential. -/
theorem externalCookies_of_ofConfig {c : Config} {env : Environment} {sources : Sources}
    {b : Broker} (h : ofConfig c env sources = .ok b) :
    b.ciphertextCookie = c.external.ciphertextCookie ∧
      b.initialCookie = c.external.initialCookie := by
  obtain ⟨password, salt, secret, cipher, validator, classifier, -, -, -, -, -, -, rfl⟩ :=
    ofConfig_eq_ok_iff.mp h
  exact ⟨rfl, rfl⟩

/-! ## The two ways -/

theorem sorts_primary (b : Broker) (jar : Cookie.Jar) (client : Client) (today : Date) :
    Sorts (b.primary.issue jar client today) (jar.get? b.cookie.name ≠ none)
      (PrimaryFlow.IsGood ⟨b.cipher, b.cookie.name⟩ jar client) :=
  PrimaryFlow.sorts ⟨b.cipher, b.cookie.name⟩ jar client

theorem sorts_external (b : Broker) (jar : Cookie.Jar) (client : Client) (today : Date) :
    Sorts (b.external.issue jar client today)
      (jar.get? b.ciphertextCookie ≠ none ∧ jar.get? b.initialCookie ≠ none)
      (ExternalFlow.IsGood
        ⟨b.validator, b.ciphertextCookie, b.initialCookie, b.cipher.version⟩ jar today) :=
  ExternalFlow.sorts ⟨b.validator, b.ciphertextCookie, b.initialCookie, b.cipher.version⟩ jar today

end AccessBroker.Broker
