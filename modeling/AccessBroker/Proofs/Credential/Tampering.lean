/-
What a changed envelope opens as.

The encryption carries no mark of integrity, so whoever knows the facts of a
cookie chooses the first sixteen bytes of what is decrypted, and how many blocks
follow them. Cut short, what is decrypted ends in a byte of the facts where
padding is asked for, or is too short to be facts at all; with the ciphertext
whole, the bytes behind the sixteen leave one choice (`opened_prefix`). Cut at
the front they leave none, except if the facts fill their last block: then the
sixteen bytes can stand by themselves, and there is one text of facts as short
as that (`opened_drop`).
-/
import AccessBroker.Proofs.Credential.Facts

namespace AccessBroker.CookieCipher

open Text.Utf8 (encodeChars)
open Cipher (pad unpad? addToFront)
open Cipher.Aes (Block)

/-! ## What is accepted -/

/-- The text of an envelope with a ciphertext and an initial block of any bytes. -/
def forged (version : String) (secret nonce : List UInt8) : String :=
  Envelope.text ⟨version, Encoding.Base64.encode secret, Encoding.Base64.encode nonce⟩

theorem unseal?_forged (c : CookieCipher) (version : String) (secret nonce : List UInt8) :
    c.unseal? (forged version secret nonce) = (Cipher.initial? nonce).bind fun x =>
      (Cipher.decrypt? c.key x secret).bind AccessCookie.ofBytes? := by
  rw [unseal?, forged, Envelope.text, Encoding.Base64.trim_encode, Encoding.Base64.decode?_encode]
  simp only [Option.bind_eq_bind, Option.bind_some, Envelope.ofBytes?_encode, openEnvelope?,
    Encoding.Base64.decode?_encode]

theorem opened_eq_ok {c : CookieCipher} {value : String} {presenter : Address}
    {cookie : AccessCookie} (h : c.unseal? value = some cookie)
    (haddress : cookie.address = presenter.canonicalText) :
    c.opened value presenter = .ok cookie := by
  rw [opened, h]
  exact if_pos haddress

theorem opened_eq_invalid {c : CookieCipher} {value : String} {presenter : Address}
    (h : ∀ cookie, c.unseal? value = some cookie → cookie.address ≠ presenter.canonicalText) :
    c.opened value presenter = .error .invalid := by
  rw [opened]
  cases hvalue : c.unseal? value with
  | none => rfl
  | some cookie => exact if_neg (h cookie hvalue)

/-! ## The bytes of the facts -/

theorem take_bytes_of (a : Address) (campus degraded : Bool) :
    (AccessCookie.of a campus degraded).bytes.take 16 = encodeChars AccessCookie.front := by
  rw [AccessCookie.bytes_of, Text.Utf8.encodeChars_append]
  rfl

theorem drop_bytes_of (a : Address) (campus degraded : Bool) (n : Nat) :
    (AccessCookie.of a campus degraded).bytes.drop (16 + n) =
      encodeChars ((AccessCookie.back a campus degraded).drop n) := by
  have hascii : ∀ d ∈ AccessCookie.back a campus degraded, d.toNat < 0x80 := fun d hd =>
    (AccessCookie.isPlain_back a campus degraded d hd).2.1
  rw [AccessCookie.bytes_of, Text.Utf8.encodeChars_append,
    show 16 + n = (encodeChars AccessCookie.front).length + n from rfl,
    List.drop_length_add_append, Text.Utf8.encodeChars_ascii hascii, ← List.map_drop,
    Text.Utf8.encodeChars_ascii fun d hd => hascii d (List.mem_of_mem_drop hd)]

theorem le_of_mem_bytes_of {a : Address} {campus degraded : Bool} {b : UInt8}
    (h : b ∈ (AccessCookie.of a campus degraded).bytes) : 0x20 ≤ b.toNat := by
  have hplain : ∀ c ∈ AccessCookie.front ++ AccessCookie.back a campus degraded,
      0x20 ≤ c.toNat ∧ c.toNat < 0x80 := by
    intro c hc
    rcases List.mem_append.mp hc with hc | hc
    · exact AccessCookie.isPlain_front c hc
    · obtain ⟨hlow, hhigh, -⟩ := AccessCookie.isPlain_back a campus degraded c hc
      exact ⟨hlow, hhigh⟩
  rw [AccessCookie.bytes_of, Text.Utf8.encodeChars_ascii fun c hc => (hplain c hc).2,
    List.mem_map] at h
  obtain ⟨c, hc, rfl⟩ := h
  obtain ⟨hlow, hhigh⟩ := hplain c hc
  rwa [Text.Utf8.toNat_ofNat_of_lt (by omega)]

/-! ## Cut at the end -/

/-- The front of the facts ends in no padding. -/
theorem unpad?_front {a : Address} {campus degraded : Bool} (d : Block) {n : Nat} (hn : 16 < n)
    (hle : n ≤ (AccessCookie.of a campus degraded).bytes.length) :
    unpad? (addToFront d ((pad (AccessCookie.of a campus degraded).bytes).take n)) = none := by
  have hfront : (pad (AccessCookie.of a campus degraded).bytes).take n =
      (AccessCookie.of a campus degraded).bytes.take n := by
    rw [pad, List.take_append_of_le_length hle]
  obtain ⟨b, hb⟩ : ∃ b, ((AccessCookie.of a campus degraded).bytes.take n).getLast? = some b := by
    refine ⟨_, List.getLast?_eq_some_getLast (List.ne_nil_of_length_pos ?_)⟩
    rw [List.length_take]
    omega
  have hlow := le_of_mem_bytes_of (List.mem_of_mem_take (List.mem_of_getLast? hb))
  refine Cipher.unpad?_eq_none ?_ (show 16 < b.toNat by omega)
  rw [hfront, addToFront, List.getLast?_append_of_ne_nil, List.getLast?_drop, if_neg, hb]
  · rw [List.length_take]
    omega
  · refine List.ne_nil_of_length_pos ?_
    rw [List.length_drop, List.length_take]
    omega

/-- The whole ciphertext gives facts under its own initial block alone. -/
theorem eq_of_ofBytes?_addToFront {initial other : Block} {a : Address} {campus degraded : Bool}
    {cookie : AccessCookie} (h : AccessCookie.ofBytes? (addToFront (initial.xor other)
      (AccessCookie.of a campus degraded).bytes) = some cookie) : other = initial := by
  have hlength : 16 ≤ (AccessCookie.of a campus degraded).bytes.length := by
    rw [AccessCookie.bytes_of, Text.Utf8.encodeChars_append, List.length_append]
    exact Nat.le_add_right 16 _
  obtain ⟨front, hfront, heq⟩ := Cipher.exists_addToFront_eq (initial.xor other) hlength
  have hback := drop_bytes_of a campus degraded 0
  rw [List.drop_zero, Nat.add_zero] at hback
  rw [heq, hback] at h
  obtain ⟨rfl, -⟩ := AccessCookie.eq_front_of_ofBytes? hfront
    (List.ne_nil_of_mem (List.mem_of_getLast? (AccessCookie.getLast?_back a campus degraded)))
    (List.suffix_refl _) h
  refine Cipher.eq_of_addToFront hlength ?_
  rw [heq, ← take_bytes_of a campus degraded, List.take_append_drop]

/-- **Another initial block, or less of the ciphertext,** is refused whoever presents it. -/
theorem opened_prefix (c : CookieCipher) (initial : Block) (a : Address) (campus degraded : Bool)
    {secret nonce : List UInt8} (hsecret : secret <+: c.secret initial (.of a campus degraded))
    (hother : (nonce, secret) ≠ (initial.bytes, c.secret initial (.of a campus degraded)))
    (version : String) (presenter : Address) :
    c.opened (forged version secret nonce) presenter = .error .invalid := by
  refine opened_eq_invalid fun cookie hcookie haddress => ?_
  rw [unseal?_forged] at hcookie
  obtain ⟨other, hnonce, hplain⟩ := Option.bind_eq_some_iff.mp hcookie
  obtain ⟨plain, hplain, hfacts⟩ := Option.bind_eq_some_iff.mp hplain
  obtain rfl := Cipher.eq_bytes_of_initial? hnonce
  obtain ⟨⟨n, hn⟩, hread⟩ := Cipher.decrypt?_prefix hsecret hplain
  have hsixteen := (AccessCookie.le_length_of_ofBytes? hfacts haddress).1
  have hlength := Cipher.length_lt_of_unpad? hread
  rw [Cipher.length_addToFront, List.length_take, Cipher.length_pad] at hlength
  have hwhole : (c.secret initial (.of a campus degraded)).length =
      16 * ((AccessCookie.of a campus degraded).bytes.length / 16 + 1) := by
    rw [CookieCipher.secret, Cipher.length_encrypt, Cipher.length_pad]
  by_cases hshort : secret.length ≤ (AccessCookie.of a campus degraded).bytes.length
  · rw [unpad?_front _ (by omega) hshort] at hread
    cases hread
  · have hsame := hsecret.eq_of_length (by
      have hle := hsecret.length_le
      omega)
    rw [List.take_of_length_le (by rw [hsame, hwhole, Cipher.length_pad]),
      Cipher.unpad?_addToFront_pad _ (by omega)] at hread
    obtain rfl := Option.some.inj hread
    exact hother (by rw [eq_of_ofBytes?_addToFront hfacts, hsame])

/-- A cookie of 127.0.0.1 is refused to that address too once a bit of its initial block is
turned. -/
theorem opened_prefix_turned_bit : ∃ c, make "password" "salt" "1.0" = .ok c ∧
    (c.secret .zero (.of (.v4 ⟨0x7F000001⟩) true false) <+:
        c.secret .zero (.of (.v4 ⟨0x7F000001⟩) true false) ∧
      (1 :: List.replicate 15 0, c.secret .zero (.of (.v4 ⟨0x7F000001⟩) true false)) ≠
        (Block.bytes .zero, c.secret .zero (.of (.v4 ⟨0x7F000001⟩) true false))) ∧
    c.opened (forged "1.0" (c.secret .zero (.of (.v4 ⟨0x7F000001⟩) true false))
      (1 :: List.replicate 15 0)) (.v4 ⟨0x7F000001⟩) = .error .invalid := by
  obtain ⟨k, -, hmake⟩ := make_eq_ok (show "password" ≠ "" by decide) (show "salt" ≠ "" by decide)
  have hother : ∀ secret : List UInt8,
      ((1 : UInt8) :: List.replicate 15 0, secret) ≠ (Block.bytes .zero, secret) := by
    intro secret h
    have hfst : (1 :: List.replicate 15 0 : List UInt8) = Block.bytes .zero := congrArg Prod.fst h
    exact absurd hfst (by decide)
  refine ⟨⟨k, "1.0"⟩, hmake "1.0", ⟨List.prefix_refl _, hother _⟩, ?_⟩
  exact opened_prefix _ .zero _ true false (List.prefix_refl _) (hother _) "1.0" _

/-! ## Cut at the front -/

/-- The first block that is read once `n` blocks were dropped: block `n` of the facts, with the
difference of the last block dropped and the initial block added. -/
def firstRead (secret facts nonce : List UInt8) (n : Nat) : List UInt8 :=
  List.zipWith (· ^^^ ·) (facts.drop (16 * n))
    (List.zipWith (· ^^^ ·) ((secret.drop (16 * (n - 1))).take 16) nonce)

theorem length_bytes_of (a : Address) (campus degraded : Bool) :
    (AccessCookie.of a campus degraded).bytes.length =
      16 + (AccessCookie.back a campus degraded).length := by
  rw [AccessCookie.bytes_of, Text.Utf8.encodeChars_append, List.length_append,
    Text.Utf8.encodeChars_ascii fun d hd => (AccessCookie.isPlain_back a campus degraded d hd).2.1,
    List.length_map]
  rfl

/-- Some of the end of the facts behind sixteen bytes is no facts. -/
theorem ofBytes?_addToFront_drop {a : Address} {campus degraded : Bool} {n : Nat} (hpos : 0 < n)
    (hn : 16 * (n + 1) < (AccessCookie.of a campus degraded).bytes.length) (d : Block) :
    AccessCookie.ofBytes?
      (addToFront d ((AccessCookie.of a campus degraded).bytes.drop (16 * n))) = none := by
  have hlength := length_bytes_of a campus degraded
  have hrest : 16 ≤ ((AccessCookie.of a campus degraded).bytes.drop (16 * n)).length := by
    rw [List.length_drop]
    omega
  obtain ⟨front, hfront, heq⟩ := Cipher.exists_addToFront_eq d hrest
  rw [List.drop_drop, Nat.add_comm (16 * n) 16, drop_bytes_of] at heq
  cases hfacts : AccessCookie.ofBytes?
    (addToFront d ((AccessCookie.of a campus degraded).bytes.drop (16 * n))) with
  | none => rfl
  | some cookie =>
    have hne : (AccessCookie.back a campus degraded).drop (16 * n) ≠ [] := by
      rw [Ne, List.drop_eq_nil_iff]
      omega
    rw [heq] at hfacts
    have hall := (AccessCookie.eq_front_of_ofBytes? hfront hne (List.drop_suffix _ _) hfacts).2
    have hcount := congrArg List.length hall
    rw [List.length_drop] at hcount
    omega

theorem unseal?_drop {c : CookieCipher} {initial : Block} {a : Address} {campus degraded : Bool}
    {n : Nat} (hpos : 0 < n)
    (hn : 16 * n < (c.secret initial (.of a campus degraded)).length) :
    ∃ y : Block, y.bytes = ((c.secret initial (.of a campus degraded)).drop (16 * (n - 1))).take 16 ∧
      ∀ (version : String) (nonce : Block),
        c.unseal? (forged version ((c.secret initial (.of a campus degraded)).drop (16 * n))
            nonce.bytes) =
          (unpad? (addToFront (y.xor nonce)
            (pad ((AccessCookie.of a campus degraded).bytes.drop (16 * n))))).bind
              AccessCookie.ofBytes? := by
  obtain ⟨y, hy, hread⟩ := Cipher.exists_decrypt?_drop c.key initial _ hpos hn
  refine ⟨y, hy, fun version nonce => ?_⟩
  rw [CookieCipher.secret, Cipher.length_encrypt, Cipher.length_pad] at hn
  rw [unseal?_forged, Cipher.initial?_bytes, Option.bind_some, CookieCipher.secret, hread,
    Cipher.drop_pad (by omega)]

theorem ofBytes?_shortest :
    AccessCookie.ofBytes? AccessCookie.shortest = some ⟨"::", true, true⟩ := by
  decide +kernel

theorem addToFront_eq_firstRead {secret facts : List UInt8} {y nonce : Block} {n : Nat}
    (hy : y.bytes = (secret.drop (16 * (n - 1))).take 16) (hfacts : facts.length = 16 * (n + 1)) :
    addToFront (y.xor nonce) (facts.drop (16 * n)) = firstRead secret facts nonce.bytes n := by
  have hlength : (facts.drop (16 * n)).length = 16 := by
    rw [List.length_drop]
    omega
  rw [addToFront, Cipher.bytes_xor, hy, List.take_of_length_le (Nat.le_of_eq hlength),
    List.drop_eq_nil_of_le (Nat.le_of_eq hlength), List.append_nil, firstRead]

/-- **Fewer blocks at the front** are refused, with one exception: where the facts fill their last
block, that block by itself can be turned into the shortest facts there are, which are those of the
address whose bits are all zero. -/
theorem opened_drop (c : CookieCipher) (initial : Block) (a : Address) (campus degraded : Bool)
    {n : Nat} (hpos : 0 < n) (hn : 16 * n < (c.secret initial (.of a campus degraded)).length)
    (nonce : Block) (version : String) (presenter : Address) :
    c.opened (forged version ((c.secret initial (.of a campus degraded)).drop (16 * n)) nonce.bytes)
        presenter =
      if (AccessCookie.of a campus degraded).bytes.length = 16 * (n + 1) ∧
          firstRead (c.secret initial (.of a campus degraded))
            (AccessCookie.of a campus degraded).bytes nonce.bytes n = AccessCookie.shortest ∧
          presenter.canonical = .v6 ⟨0⟩ then
        .ok ⟨"::", true, true⟩
      else .error .invalid := by
  obtain ⟨y, hy, hunseal⟩ := unseal?_drop hpos hn
  have hread := hunseal version nonce
  generalize hfacts : (AccessCookie.of a campus degraded).bytes = facts at *
  have hrest : (facts.drop (16 * n)).length = facts.length - 16 * n := List.length_drop
  rcases Nat.lt_trichotomy facts.length (16 * (n + 1)) with hless | hlength | hmore
  -- The last block holds less than sixteen bytes of message, which are too few for any facts.
  · rw [if_neg fun h => absurd h.1 (by omega)]
    refine opened_eq_invalid fun cookie hcookie haddress => ?_
    rw [hread] at hcookie
    obtain ⟨plain, hplain, hcookie⟩ := Option.bind_eq_some_iff.mp hcookie
    have hlong := (AccessCookie.le_length_of_ofBytes? hcookie haddress).1
    have hshort := Cipher.length_lt_of_unpad? hplain
    rw [Cipher.length_addToFront, Cipher.length_pad] at hshort
    omega
  · rw [Cipher.unpad?_addToFront_pad _ (by omega), Option.bind_some,
      addToFront_eq_firstRead hy hlength] at hread
    have hsixteen : (firstRead (c.secret initial (.of a campus degraded)) facts nonce.bytes n).length =
        16 := by
      rw [← addToFront_eq_firstRead hy hlength, Cipher.length_addToFront]
      omega
    split
    · next h =>
      obtain ⟨-, hshortest, hpresenter⟩ := h
      rw [hshortest, ofBytes?_shortest] at hread
      exact opened_eq_ok hread (Address.canonicalText_eq_colons_iff.mpr hpresenter).symm
    · next h =>
      refine opened_eq_invalid fun cookie hcookie haddress => h ?_
      rw [hread] at hcookie
      obtain ⟨hshortest, rfl⟩ :=
        (AccessCookie.le_length_of_ofBytes? hcookie haddress).2 hsixteen
      exact ⟨hlength, hshortest, Address.canonicalText_eq_colons_iff.mp haddress.symm⟩
  -- What follows the sixteen bytes is the end of the facts, but not all of it.
  · rw [if_neg fun h => absurd h.1 (by omega)]
    refine opened_eq_invalid fun cookie hcookie => ?_
    rw [hread, Cipher.unpad?_addToFront_pad _ (by omega), Option.bind_some, ← hfacts,
      ofBytes?_addToFront_drop hpos (by rw [hfacts]; exact hmore)] at hcookie
    cases hcookie

/-- The cookie of 127.0.0.1 without its first block is refused to that address. -/
theorem opened_drop_first : ∃ c, make "password" "salt" "1.0" = .ok c ∧
    (0 < 1 ∧ 16 * 1 < (c.secret .zero (.of (.v4 ⟨0x7F000001⟩) true false)).length) ∧
    c.opened (forged "1.0" ((c.secret .zero (.of (.v4 ⟨0x7F000001⟩) true false)).drop (16 * 1))
      (Block.bytes .zero)) (.v4 ⟨0x7F000001⟩) = .error .invalid := by
  obtain ⟨k, -, hmake⟩ := make_eq_ok (show "password" ≠ "" by decide) (show "salt" ≠ "" by decide)
  have hlength : 16 * 1 < (secret ⟨k, "1.0"⟩ .zero (.of (.v4 ⟨0x7F000001⟩) true false)).length := by
    rw [secret, Cipher.length_encrypt]
    decide +kernel
  refine ⟨⟨k, "1.0"⟩, hmake "1.0", ⟨Nat.one_pos, hlength⟩, ?_⟩
  rw [opened_drop _ _ _ _ _ Nat.one_pos hlength, if_neg]
  intro h
  exact absurd h.2.2 (by decide)

/-- The cookie of 127.0.0.1 whose facts fill five blocks; the last of them, by itself and under a
chosen initial block, opens for the address whose bits are all zero. -/
theorem exists_opened_drop : ∃ c nonce, make "password" "salt" "1.0" = .ok c ∧
    (0 < 4 ∧ 16 * 4 < (c.secret .zero (.of (.v4 ⟨0x7F000001⟩) true false)).length) ∧
    c.opened (forged "1.0" ((c.secret .zero (.of (.v4 ⟨0x7F000001⟩) true false)).drop (16 * 4))
      (Block.bytes nonce)) (.v6 ⟨0⟩) = .ok ⟨"::", true, true⟩ := by
  obtain ⟨k, -, hmake⟩ := make_eq_ok (show "password" ≠ "" by decide) (show "salt" ≠ "" by decide)
  have hlength : 16 * 4 < (secret ⟨k, "1.0"⟩ .zero (.of (.v4 ⟨0x7F000001⟩) true false)).length := by
    rw [secret, Cipher.length_encrypt]
    decide +kernel
  obtain ⟨y, -, hunseal⟩ := unseal?_drop (show 0 < 4 by decide) hlength
  obtain ⟨p, hp⟩ := Cipher.exists_bytes_eq (show
    ((AccessCookie.of (.v4 ⟨0x7F000001⟩) true false).bytes.drop (16 * 4)).length = 16 by
      decide +kernel)
  obtain ⟨t, ht⟩ := Cipher.exists_bytes_eq (show AccessCookie.shortest.length = 16 by decide)
  have hsixteen : 16 ≤ p.bytes.length := Nat.le_refl 16
  refine ⟨⟨k, "1.0"⟩, y.xor (p.xor t), hmake "1.0", ⟨by decide, hlength⟩, ?_⟩
  refine opened_eq_ok ?_ (Address.canonicalText_eq_colons_iff.mpr rfl).symm
  rw [hunseal, hp, Cipher.Aes.Block.xor_xor_self, Cipher.unpad?_addToFront_pad _ hsixteen,
    Option.bind_some, addToFront, List.take_of_length_le hsixteen, List.drop_eq_nil_of_le hsixteen,
    List.append_nil, ← Cipher.bytes_xor, Cipher.Aes.Block.xor_xor_self, ← ht, ofBytes?_shortest]

end AccessBroker.CookieCipher
