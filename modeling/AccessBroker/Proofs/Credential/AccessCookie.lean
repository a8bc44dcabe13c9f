/-
What sealing a cookie and opening it again gives.

Every step of sealing has its inverse: the facts are read back from their JSON
(`ofBytes?_bytes`), from their encryption, and from the envelope in base 64, so a
sealed cookie gives its facts under the same key (`unseal?_sealed`), whatever
version either side writes on its envelopes. `opened_sealed` adds the comparison
of addresses: by their texts, which tell canonical forms apart.
-/
import AccessBroker.Credential.AccessCookie
import AccessBroker.Proofs.Address.Basic
import AccessBroker.Proofs.Cipher.Chaining
import AccessBroker.Proofs.Encoding.Base64
import AccessBroker.Proofs.Json.Record

namespace AccessBroker

namespace AccessCookie

theorem isExact_toJson (c : AccessCookie) : c.toJson.IsExact := by
  simp [toJson, Json.IsExact, Json.MembersAreExact]

/-- The facts are read back from their bytes. -/
theorem ofBytes?_bytes (c : AccessCookie) : ofBytes? c.bytes = some c := by
  have htree := Json.Tree.ofBytes?_write (isExact_toJson c)
  rw [ofBytes?, bytes, htree, toJson, Option.bind_eq_bind, Option.bind_some,
    Json.Record.ofTree?_tree_object]
  have hfields : Json.Record.fields? fields (Json.Record.named
      [("client-ip-address", .text c.address), ("campus-network", .bool c.campus),
        ("degraded-allowed", .bool c.degraded)]) =
      some [some (.quoted (Json.inside Json.escapeChar c.address)), some (.bool c.campus),
        some (.bool c.degraded)] := rfl
  simp only [hfields, Option.bind_eq_bind, Option.bind_some, Json.Tree.text?, Json.Tree.bool?,
    Json.unquote?_inside Json.spells_escapeChar]

end AccessCookie

namespace Envelope

theorem isExact_toJson (e : Envelope) : e.toJson.IsExact := by
  simp [toJson, Json.IsExact, Json.MembersAreExact]

/-- An envelope is read back from its bytes. -/
theorem ofBytes?_encode (e : Envelope) :
    ofBytes? (Text.Utf8.encode e.toJson.write) = some e := by
  have htree := Json.Tree.ofBytes?_write (isExact_toJson e)
  rw [ofBytes?, htree, toJson, Option.bind_eq_bind, Option.bind_some,
    Json.Record.ofTree?_tree_object]
  have hfields : Json.Record.fields? fields (Json.Record.named
      [("version", .text e.version), ("secret", .text e.secret), ("nonce", .text e.nonce)]) =
      some [some (.quoted (Json.inside Json.escapeChar e.version)), some (.quoted (Json.inside Json.escapeChar e.secret)),
        some (.quoted (Json.inside Json.escapeChar e.nonce))] := rfl
  simp only [hfields, Option.bind_eq_bind, Option.bind_some, Json.Tree.text?,
    Json.unquote?_inside Json.spells_escapeChar]

end Envelope

namespace CookieCipher

/-- A password and a salt always give a key. -/
theorem exists_keyFor? (password salt : String) : ∃ k, keyFor? password salt = some k :=
  Cipher.Aes.exists_ofKey?_iff.mpr (.inr (.inr rfl))

theorem make_eq_ok {password salt : String} (hpassword : password ≠ "") (hsalt : salt ≠ "") :
    ∃ k, keyFor? password salt = some k ∧
      ∀ version, make password salt version = .ok ⟨k, version⟩ := by
  obtain ⟨k, hk⟩ := exists_keyFor? password salt
  refine ⟨k, hk, fun version => ?_⟩
  have hempty : (password.isEmpty || salt.isEmpty) = false := by
    simp [hpassword, hsalt]
  rw [make, hempty, hk]
  rfl

/-- Nothing but an empty password or salt keeps a cipher from being made. -/
theorem make_eq_error_iff {password salt version : String} {f : CredentialFault} :
    make password salt version = .error f ↔ (password = "" ∨ salt = "") ∧ f = .misconfigured := by
  by_cases hempty : password = "" ∨ salt = ""
  · have hmake : make password salt version = .error .misconfigured :=
      if_pos (by simpa using hempty)
    rw [hmake, Except.error.injEq, eq_comm]
    exact ⟨fun h => ⟨hempty, h⟩, fun h => h.2⟩
  · obtain ⟨hpassword, hsalt⟩ := not_or.mp hempty
    obtain ⟨k, -, hmake⟩ := make_eq_ok hpassword hsalt
    rw [hmake]
    exact ⟨fun h => (by cases h), fun h => absurd h.1 hempty⟩

theorem version_of_make {password salt version : String} {c : CookieCipher}
    (h : make password salt version = .ok c) : c.version = version := by
  rw [make] at h
  split at h
  · cases h
  · split at h
    · cases h
      rfl
    · cases h

/-- A sealed cookie gives its facts under the same key. -/
theorem unseal?_sealed {c d : CookieCipher} (hkey : d.key = c.key) (initial : Cipher.Aes.Block)
    (cookie : AccessCookie) : d.unseal? (c.sealed initial cookie) = some cookie := by
  rw [unseal?, sealed, Envelope.text, Encoding.Base64.trim_encode, Encoding.Base64.decode?_encode]
  simp only [Option.bind_eq_bind, Option.bind_some, Envelope.ofBytes?_encode, openEnvelope?,
    envelope, Encoding.Base64.decode?_encode, Cipher.initial?_bytes, secret, hkey,
    Cipher.decrypt?_encrypt, AccessCookie.ofBytes?_bytes]

/-- Facts sealed for one address are given to another if the canonical forms are the same. -/
theorem opened_sealed {c d : CookieCipher} (hkey : d.key = c.key) (initial : Cipher.Aes.Block)
    (a b : Address) (campus degraded : Bool) :
    d.opened (c.sealed initial (.of a campus degraded)) b =
      if a.canonical = b.canonical then .ok (.of a campus degraded) else .error .invalid := by
  rw [opened, unseal?_sealed hkey]
  simp only [AccessCookie.of, Address.canonicalText_eq_iff]

/-- Who presents a cookie counts by its canonical form. -/
theorem opened_canonical (c : CookieCipher) (value : String) (a : Address) :
    c.opened value a.canonical = c.opened value a := by
  simp only [opened, Address.canonicalText, Address.canonical_canonical]
  rfl

/-- **Sealing and opening.** Two ciphers made of the same password and salt, whatever version they
write, open what the other has sealed for an address that has the same canonical form as that of
the presenter, and refuse it to every other presenter. -/
theorem make_opened_sealed {password salt : String} (hpassword : password ≠ "")
    (hsalt : salt ≠ "") (v₁ v₂ : String) :
    ∃ c₁ c₂, make password salt v₁ = .ok c₁ ∧ make password salt v₂ = .ok c₂ ∧
      ∀ (initial : Cipher.Aes.Block) (a b : Address) (campus degraded : Bool),
        c₂.opened (c₁.sealed initial (.of a campus degraded)) b =
          if a.canonical = b.canonical then .ok (.of a campus degraded) else .error .invalid := by
  obtain ⟨k, -, hmake⟩ := make_eq_ok hpassword hsalt
  exact ⟨⟨k, v₁⟩, ⟨k, v₂⟩, hmake v₁, hmake v₂, opened_sealed rfl⟩

/-- 10.0.0.1 and the address of version 6 that carries it are one presenter; 10.0.0.2 is another. -/
theorem make_opened_sealed_mapped :
    ("password" ≠ "" ∧ "salt" ≠ "") ∧
    ∃ c₁ c₂, make "password" "salt" "1" = .ok c₁ ∧ make "password" "salt" "2" = .ok c₂ ∧
      c₂.opened (c₁.sealed .zero (.of (.v4 ⟨0x0A000001⟩) true false))
          (.v6 (.ofMapped ⟨0x0A000001⟩)) = .ok (.of (.v4 ⟨0x0A000001⟩) true false) ∧
      c₂.opened (c₁.sealed .zero (.of (.v4 ⟨0x0A000001⟩) true false)) (.v4 ⟨0x0A000002⟩) =
        .error .invalid := by
  have hpassword : "password" ≠ "" := by decide
  have hsalt : "salt" ≠ "" := by decide
  obtain ⟨c₁, c₂, h₁, h₂, h⟩ := make_opened_sealed hpassword hsalt "1" "2"
  refine ⟨⟨hpassword, hsalt⟩, c₁, c₂, h₁, h₂, ?_, ?_⟩
  · rw [h, if_pos (by decide)]
  · rw [h, if_neg (by decide)]

end CookieCipher

end AccessBroker
