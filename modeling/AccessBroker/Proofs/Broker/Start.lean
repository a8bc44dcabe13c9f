/-
When a broker can be made, and why not.

What may stand against a broker is listed in the order in which it is looked for
(`obstacles`): the secrets of the cookie, the key made of them, the shared
secret, its length, and the blocks of the network. The first of them is the
reason why none is made (`refusal?_ofConfig`). `ofConfig_starts` adds what it
takes to make one, and that the key of the cookie never fails for settings that
are valid.
-/
import AccessBroker.Proofs.Broker.Basic
import AccessBroker.Proofs.Config.Validation
import AccessBroker.Proofs.Environment.Basic
import AccessBroker.Proofs.Network.Spelling

namespace AccessBroker.Broker

open Network (Block)

/-- How many bytes a shared secret may have. -/
def keyLengths : List Nat := [16, 24, 32]

/-- What is wrong with the length of a shared secret, if anything is. -/
def lengthFault? (secret : String) : Option StartupFault :=
  if (Text.Utf8.encode secret).length ∈ keyLengths then none
  else some (.key "external" .misconfigured)

/-- What is wrong with the secrets of the cookie, once they are found, if anything is. -/
def emptyFault? (password salt : String) : Option StartupFault :=
  if password = "" ∨ salt = "" then some (.key "cookie" .misconfigured) else none

/-- What may stand against a broker, in the order in which it is looked for. -/
def obstacles (c : Config) (env : Environment) : List (Option StartupFault) :=
  [(refusal? (env.resolve "cookie.password" c.cookie.password)).map .secret,
    (refusal? (env.resolve "cookie.salt" c.cookie.salt)).map .secret,
    emptyFault? c.cookie.password c.cookie.salt,
    (refusal? (env.resolve "external.secret" c.external.secret)).map .secret,
    (env.resolve "external.secret" c.external.secret).toOption.bind lengthFault?,
    (c.subnets.findSome? fun s => refusal? (Block.ofText s)).map .subnet]

/-! ## The first obstacle -/

theorem refusal?_named {ε α : Type} (name : ε → StartupFault) (x : Except ε α) :
    refusal? (named name x) = (refusal? x).map name := by
  cases x <;> rfl

theorem refusal?_cipher (password salt version : String) :
    refusal? (named (.key "cookie") (CookieCipher.make password salt version)) =
      emptyFault? password salt := by
  rw [refusal?_named, refusal?_eq_ite fun _ => CookieCipher.make_eq_error_iff, emptyFault?]
  split
  · rfl
  · rfl

theorem refusal?_validator (secret word format : String) :
    refusal? (named (.key "external")
      (External.Validator.make (Text.Utf8.encode secret) word format)) = lengthFault? secret := by
  rw [refusal?_named, refusal?_eq_ite fun _ => External.Validator.make_eq_error_iff, ite_not,
    lengthFault?]
  simp only [keyLengths, List.mem_cons, List.not_mem_nil, or_false]
  split
  · rfl
  · rfl

/-- Secrets that are found are empty if the settings are. -/
theorem emptyFault?_of_resolve {env : Environment} {p q name name' password salt : String}
    (hpassword : env.resolve name p = .ok password) (hsalt : env.resolve name' q = .ok salt) :
    emptyFault? p q = emptyFault? password salt := by
  simp only [emptyFault?, Environment.eq_empty_iff_of_resolve hpassword,
    Environment.eq_empty_iff_of_resolve hsalt]

theorem findSome?_id_cons {α : Type} (o : Option α) (os : List (Option α)) :
    (o :: os).findSome? id = o.or (os.findSome? id) := by
  cases o <;> rfl

/-- **The first obstacle is the reason why no broker is made.** -/
theorem refusal?_ofConfig (c : Config) (env : Environment) (sources : Sources) :
    refusal? (ofConfig c env sources) = (obstacles c env).findSome? id := by
  simp only [obstacles, findSome?_id_cons, List.findSome?_nil, ← refusal?_named,
    ← Network.Classifier.refusal?_ofTexts]
  refine refusal?_bind fun password hpassword => refusal?_bind fun salt hsalt => ?_
  rw [named_eq_ok_iff] at hpassword hsalt
  rw [emptyFault?_of_resolve hpassword hsalt, ← refusal?_cipher password salt c.version]
  refine refusal?_bind fun cipher _ => refusal?_bind fun secret hsecret => ?_
  rw [named_eq_ok_iff.mp hsecret, Except.toOption, Option.bind_some,
    ← refusal?_validator secret c.external.word c.external.dateFormat]
  exact refusal?_bind fun validator _ => refusal?_bind fun classifier _ => rfl

/-- What stands against the key of the cookie is a password or a salt that is empty. -/
theorem eq_empty_of_key {c : Config} {env : Environment} {sources : Sources} {f : CredentialFault}
    (h : ofConfig c env sources = .error (.key "cookie" f)) :
    c.cookie.password = "" ∨ c.cookie.salt = "" := by
  rw [← refusal?_eq_some_iff, refusal?_ofConfig] at h
  obtain ⟨_, hmem, rfl⟩ := List.exists_of_findSome?_eq_some h
  -- Faults of secrets and of blocks are told in other ways, so two obstacles are left.
  simp only [obstacles, List.mem_cons, List.not_mem_nil, or_false, eq_comm (a := some _),
    Option.map_eq_some_iff, reduceCtorEq, and_false, exists_false, false_or,
    Option.bind_eq_some_iff] at hmem
  rcases hmem with hkey | ⟨secret, -, hlength⟩
  · rw [emptyFault?] at hkey
    split at hkey
    · assumption
    · cases hkey
  · rw [lengthFault?] at hlength
    split at hlength
    · cases hlength
    · simp at hlength

/-- What it takes to make a broker. -/
theorem exists_ofConfig_iff {c : Config} {env : Environment} {sources : Sources} :
    (∃ b, ofConfig c env sources = .ok b) ↔
      (∃ password, env.StandsFor c.cookie.password password ∧ password ≠ "") ∧
      (∃ salt, env.StandsFor c.cookie.salt salt ∧ salt ≠ "") ∧
      (∃ secret, env.StandsFor c.external.secret secret ∧
        (Text.Utf8.encode secret).length ∈ keyLengths) ∧
      ∀ s ∈ c.subnets, ∃ a n, Block.Spells (Text.trim s).toList a n ∧ n ≤ 32 := by
  constructor
  · rintro ⟨b, hb⟩
    obtain ⟨password, salt, secret, cipher, validator, classifier, hpassword, hsalt, hcipher,
      hsecret, hvalidator, hclassifier, -⟩ := ofConfig_eq_ok_iff.mp hb
    have hshown : ¬(password = "" ∨ salt = "") := fun hempty => by
      rw [CookieCipher.make_eq_error_iff.mpr ⟨hempty, rfl⟩] at hcipher
      cases hcipher
    have hlength := Cipher.Aes.exists_ofKey?_iff.mp ⟨_, (External.Validator.of_make hvalidator).1⟩
    rw [not_or] at hshown
    refine ⟨⟨password, (Environment.standsFor_iff _).mpr hpassword, hshown.1⟩,
      ⟨salt, (Environment.standsFor_iff _).mpr hsalt, hshown.2⟩,
      ⟨secret, (Environment.standsFor_iff _).mpr hsecret, by simpa [keyLengths] using hlength⟩, ?_⟩
    intro s hs
    exact Block.exists_ofText_iff.mp
      (Network.Classifier.exists_ofTexts_iff.mp ⟨classifier, hclassifier⟩ s hs)
  · rintro ⟨⟨password, hpassword, hshown⟩, ⟨salt, hsalt, hshown'⟩, ⟨secret, hsecret, hlength⟩, hblocks⟩
    obtain ⟨classifier, hclassifier⟩ := Network.Classifier.exists_ofTexts_iff.mpr fun s hs =>
      Block.exists_ofText_iff.mpr (hblocks s hs)
    obtain ⟨b, hb, -⟩ := exists_ofConfig c env sources ((Environment.standsFor_iff _).mp hpassword)
      ((Environment.standsFor_iff _).mp hsalt) ⟨hshown, hshown'⟩
      ((Environment.standsFor_iff _).mp hsecret) (by simpa [keyLengths] using hlength) hclassifier
    exact ⟨b, hb⟩

/-- **When a broker is made.** One is made exactly if the password and the salt of the cookie each
stand for a text that is not empty, the shared secret stands for one with the bytes of a key, and
each of the blocks is spelled as one. Otherwise the first obstacle is told; it is not the key of the
cookie if the settings are valid. -/
theorem ofConfig_starts (c : Config) (env : Environment) (sources : Sources) :
    ((∃ b, ofConfig c env sources = .ok b) ↔
      (∃ password, env.StandsFor c.cookie.password password ∧ password ≠ "") ∧
      (∃ salt, env.StandsFor c.cookie.salt salt ∧ salt ≠ "") ∧
      (∃ secret, env.StandsFor c.external.secret secret ∧
        (Text.Utf8.encode secret).length ∈ keyLengths) ∧
      ∀ s ∈ c.subnets, ∃ a n, Block.Spells (Text.trim s).toList a n ∧ n ≤ 32) ∧
    (∀ f, ofConfig c env sources = .error f ↔ (obstacles c env).findSome? id = some f) ∧
    (c.IsValid → ∀ f, ofConfig c env sources ≠ .error (.key "cookie" f)) := by
  refine ⟨exists_ofConfig_iff, fun f => ?_, fun hvalid f hkey => ?_⟩
  · rw [← refusal?_ofConfig c env sources, refusal?_eq_some_iff]
  · rcases eq_empty_of_key hkey with hempty | hempty
    · exact hvalid.ne_empty List.mem_cons_self hempty
    · exact hvalid.ne_empty (List.mem_cons_of_mem _ List.mem_cons_self) hempty

/-- Settings with a shared secret of eight characters and sixteen bytes. -/
def startConfig (salt : String) (subnets : List String) : Config :=
  { Config.ofSecrets "password" salt "éééééééé" with subnets }

/-- Bytes are counted, not characters; of a variable that is not set and a block without a length
the variable is told, and of two blocks the first. -/
theorem ofConfig_starts_first :
    (startConfig "salt" ["10.0.0.0/8"]).IsValid ∧
    (∃ b, seeded (startConfig "salt" ["10.0.0.0/8"]) .empty = .ok b) ∧
    (∀ f, seeded (startConfig "salt" ["10.0.0.0/8"]) .empty ≠ .error (.key "cookie" f)) ∧
    seeded (startConfig "env:SALT" ["10.0.0.0"]) .empty =
      .error (.secret ⟨"cookie.salt", "SALT", false⟩) ∧
    seeded (startConfig "salt" ["10.0.0.0/8", "10.0.0.0", "/"]) .empty =
      .error (.subnet (.missingSlash "10.0.0.0")) := by
  have hvalid : (startConfig "salt" ["10.0.0.0/8"]).IsValid := by decide
  obtain ⟨hmade, -, hkey⟩ := ofConfig_starts (startConfig "salt" ["10.0.0.0/8"]) .empty (.ofConfig _)
  obtain ⟨-, hunset, -⟩ := ofConfig_starts (startConfig "env:SALT" ["10.0.0.0"]) .empty (.ofConfig _)
  obtain ⟨-, hbroken, -⟩ :=
    ofConfig_starts (startConfig "salt" ["10.0.0.0/8", "10.0.0.0", "/"]) .empty (.ofConfig _)
  refine ⟨hvalid, hmade.mpr ⟨⟨"password", (Environment.standsFor_iff "").mpr rfl, by decide⟩,
    ⟨"salt", (Environment.standsFor_iff "").mpr rfl, by decide⟩,
    ⟨"éééééééé", (Environment.standsFor_iff "").mpr rfl, by decide⟩, ?_⟩, hkey hvalid,
    (hunset _).mpr rfl, (hbroken _).mpr rfl⟩
  intro s hs
  obtain rfl := List.mem_singleton.mp hs
  exact Block.exists_ofText_iff.mp ⟨_, rfl⟩

end AccessBroker.Broker
