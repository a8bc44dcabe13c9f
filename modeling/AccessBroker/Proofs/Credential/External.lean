/-
What ties an external credential to its initial block.

Of the ways to write a credential only its encryption is checked, and nothing
in it covers the initial block. Under another block than its own a credential
reads as the difference of the two blocks makes it (`plain?_other`);
`check_other_eq_ok_iff` says exactly when that is a credential again: it must still
begin with the word and the space, so the two blocks agree as far as these
reach (`take_eq_of_front`), and state another date that is still good. The
word alone ties the two together once it fills the first block
(`check_other_of_le`); a shorter one leaves the front of the date open, and the
year can be moved (`exists_other_initial`).
-/
import AccessBroker.Credential.External
import AccessBroker.Proofs.Cipher.Chaining
import AccessBroker.Proofs.Encoding.Hex
import AccessBroker.Proofs.Text.Split
import AccessBroker.Proofs.Text.Utf8

namespace AccessBroker.External

open Cipher (addToFront pad)
open Cipher.Aes (Block Schedule)

/-- The bytes of a credential, before they are encrypted. -/
def plainOf (word date : String) : List UInt8 := Text.Utf8.encode (word ++ " " ++ date)

/-- The text of a credential: its bytes, encrypted under a key and an initial block. -/
def issue (k : Schedule) (initial : Block) (word date : String) : String :=
  Encoding.Hex.encode (Cipher.encrypt k initial (plainOf word date))

/-- The bytes that every credential with a word begins with. -/
def front (word : String) : List UInt8 := Text.Utf8.encode word ++ [0x20]

theorem plainOf_eq (word date : String) : plainOf word date = front word ++ Text.Utf8.encode date := by
  simp only [plainOf, front, Text.Utf8.encode, String.toList_append, Text.Utf8.encodeChars_append]
  rfl

namespace Validator

/-- A secret of the length of a key makes a validator for every word and format. -/
theorem make_eq_ok {secret : List UInt8}
    (h : secret.length = 16 ∨ secret.length = 24 ∨ secret.length = 32) :
    ∃ k, Schedule.ofKey? secret = some k ∧
      ∀ word format, make secret word format = .ok ⟨k, word, format⟩ := by
  obtain ⟨k, hk⟩ := Cipher.Aes.exists_ofKey?_iff.mpr h
  exact ⟨k, hk, fun word format => by rw [make, hk]⟩

/-- Nothing but the length of the secret keeps a validator from being made. -/
theorem make_eq_error_iff {secret : List UInt8} {word format : String} {f : CredentialFault} :
    make secret word format = .error f ↔
      ¬(secret.length = 16 ∨ secret.length = 24 ∨ secret.length = 32) ∧ f = .misconfigured := by
  rw [← Cipher.Aes.exists_ofKey?_iff, make]
  cases hkey : Schedule.ofKey? secret with
  | none => simp [eq_comm]
  | some k => simp

/-! ## Checking -/

/-- Some bytes state a date when they are the word, a space and a text that the format reads. -/
theorem issued?_eq_some_iff {v : Validator} (hword : ' ' ∉ v.word.toList) {plain : List UInt8}
    {issued : Date} : v.issued? plain = some issued ↔
      ∃ date, plain = plainOf v.word date ∧ Date.read? v.format date = some issued := by
  simp only [issued?, Option.bind_eq_bind, Option.bind_eq_some_iff, Prod.exists]
  constructor
  · rintro ⟨text, htext, word, date, hsplit, hread⟩
    split at hread
    · next heq =>
      refine ⟨String.ofList date, ?_, hread⟩
      rw [Text.Utf8.encodeChars_of_decodeChars? htext, (Text.splitFirst?_eq_some_iff.mp hsplit).1,
        plainOf, ← heq]
      simp [Text.Utf8.encode]
    · cases hread
  · rintro ⟨date, rfl, hread⟩
    refine ⟨v.word.toList ++ ' ' :: date.toList, ?_, v.word.toList, date.toList,
      Text.splitFirst?_append _ hword, ?_⟩
    · rw [← Text.Utf8.decodeChars?_encodeChars (v.word.toList ++ ' ' :: date.toList), plainOf]
      simp [Text.Utf8.encode]
    · rw [String.ofList_toList, String.ofList_toList, if_pos rfl, hread]

/-- A credential is good when it decrypts to bytes that state a date which is current. -/
theorem check_eq_ok_iff {v : Validator} {ciphertext initial : String} {today : Date} :
    v.check ciphertext initial today = .ok () ↔
      ∃ plain issued, v.plain? ciphertext initial = some plain ∧ v.issued? plain = some issued ∧
        isCurrent issued today = true := by
  rw [check]
  constructor
  · intro h
    split at h
    · next issued hbind =>
      obtain ⟨plain, hplain, hissued⟩ := Option.bind_eq_some_iff.mp hbind
      split at h
      · next hcurrent => exact ⟨plain, issued, hplain, hissued, hcurrent⟩
      · cases h
    · cases h
  · rintro ⟨plain, issued, hplain, hissued, hcurrent⟩
    simp only [hplain, Option.bind_some, hissued, hcurrent, if_true]

/-- A credential that is not good is invalid, whatever is wrong with it. -/
theorem check_eq_invalid_iff {v : Validator} {ciphertext initial : String} {today : Date} :
    v.check ciphertext initial today = .error .invalid ↔
      v.check ciphertext initial today ≠ .ok () := by
  constructor
  · intro h
    rw [h]
    exact nofun
  · intro h
    rw [check] at h ⊢
    split
    · next issued hbind =>
      split
      · next hcurrent =>
        rw [hbind] at h
        exact absurd (if_pos hcurrent) h
      · rfl
    · rfl

theorem plain?_encode (v : Validator) (bytes : List UInt8) (initial : Block) :
    v.plain? (Encoding.Hex.encode bytes) (Encoding.Hex.encode initial.bytes) =
      Cipher.decrypt? v.key initial bytes := by
  simp only [plain?, Encoding.Hex.trim_encode, Encoding.Hex.decode?_encode, Option.bind_eq_bind,
    Option.bind_some, Cipher.initial?_bytes]

/-! ## Another initial block -/

/-- What a credential reads as under another initial block. -/
theorem plain?_other {v : Validator} {initial other : Block} {date : String} {plain : List UInt8} :
    v.plain? (issue v.key initial v.word date) (Encoding.Hex.encode other.bytes) = some plain ↔
      pad plain = addToFront (initial.xor other) (pad (plainOf v.word date)) := by
  rw [issue, plain?_encode, Cipher.decrypt?_encrypt_other, Cipher.unpad?_eq_some_iff, eq_comm]
  rw [Cipher.length_addToFront]
  exact Cipher.length_pad _

/-- **Another initial block.** A credential is good under it exactly when the difference of the
blocks turns it into the same word with a date that is current. -/
theorem check_other_eq_ok_iff {v : Validator} (hword : ' ' ∉ v.word.toList)
    {initial other : Block} {date : String} {today : Date} :
    v.check (issue v.key initial v.word date) (Encoding.Hex.encode other.bytes) today = .ok () ↔
      ∃ date' issued,
        pad (plainOf v.word date') = addToFront (initial.xor other) (pad (plainOf v.word date)) ∧
          Date.read? v.format date' = some issued ∧ isCurrent issued today = true := by
  simp only [check_eq_ok_iff, plain?_other, issued?_eq_some_iff hword]
  constructor
  · rintro ⟨plain, issued, hplain, ⟨date', rfl, hread⟩, hcurrent⟩
    exact ⟨date', issued, hplain, hread, hcurrent⟩
  · rintro ⟨date', issued, hplain, hread, hcurrent⟩
    exact ⟨_, issued, hplain, ⟨date', rfl, hread⟩, hcurrent⟩

end Validator

/-! ## What ties a credential to its initial block -/

/-- A secret of 32 bytes. -/
def sampleSecret : List UInt8 := Text.Utf8.encode "ThisPasswordIsReallyHardToGuess!"

/-- An initial block. -/
def sampleInitial : Block :=
  ⟨⟨0x30, 0x31, 0x32, 0x33⟩, ⟨0x34, 0x35, 0x36, 0x37⟩, ⟨0x38, 0x39, 0x41, 0x42⟩,
    ⟨0x43, 0x44, 0x45, 0x46⟩⟩

/-- The same block with other bytes where the first two digits of a year stand behind a word of
thirteen letters: they turn 19 into 20. -/
def movedInitial : Block := { sampleInitial with s := ⟨0x43, 0x44, 0x46, 0x4F⟩ }

/-- The two blocks agree as far as the word and the space reach. -/
theorem take_eq_of_front {word date date' : String} {initial other : Block}
    (h : pad (plainOf word date') = addToFront (initial.xor other) (pad (plainOf word date))) :
    other.bytes.take (front word).length = initial.bytes.take (front word).length := by
  simp only [pad, plainOf_eq, List.append_assoc] at h
  exact Cipher.take_eq_of_addToFront h

theorem date_ne_of_ne {word date date' : String} {initial other : Block} (hother : other ≠ initial)
    (h : pad (plainOf word date') = addToFront (initial.xor other) (pad (plainOf word date))) :
    date' ≠ date := by
  rintro rfl
  refine hother (Cipher.eq_of_addToFront ?_ h)
  rw [Cipher.length_pad]
  omega

theorem check_other_of_le {v : Validator} (hword : ' ' ∉ v.word.toList)
    (hlong : 16 ≤ (front v.word).length) {initial other : Block} (hother : other ≠ initial)
    (date : String) (today : Date) :
    v.check (issue v.key initial v.word date) (Encoding.Hex.encode other.bytes) today =
      .error .invalid := by
  refine Validator.check_eq_invalid_iff.mpr fun hok => hother ?_
  obtain ⟨date', issued, hplain, -⟩ := (Validator.check_other_eq_ok_iff hword).mp hok
  have htake := take_eq_of_front hplain
  rw [List.take_of_length_le hlong, List.take_of_length_le hlong] at htake
  exact Cipher.bytes_injective htake

/-- **What ties a credential to its initial block.** Under another one it is good exactly when the
difference of the two blocks, added to its first sixteen bytes, makes it state another date that is
current, and is invalid otherwise. So the blocks must agree as far as the word and the space reach,
and a word of fifteen bytes or more allows no other block at all. -/
theorem check_other_initial {secret : List UInt8}
    (hsecret : secret.length = 16 ∨ secret.length = 24 ∨ secret.length = 32) {word : String}
    (hword : ' ' ∉ word.toList) (format : String) :
    ∃ v, Validator.make secret word format = .ok v ∧
      ∀ (date : String) (initial other : Block), other ≠ initial → ∀ today : Date,
        let answer :=
          v.check (issue v.key initial word date) (Encoding.Hex.encode other.bytes) today
        (answer = .ok () ↔ ∃ date' issued, date' ≠ date ∧
          pad (plainOf word date') = addToFront (initial.xor other) (pad (plainOf word date)) ∧
            Date.read? format date' = some issued ∧ Validator.isCurrent issued today = true) ∧
        (answer ≠ .ok () → answer = .error .invalid) ∧
        (answer = .ok () →
          other.bytes.take (front word).length = initial.bytes.take (front word).length) ∧
        (15 ≤ (Text.Utf8.encode word).length → answer = .error .invalid) := by
  obtain ⟨k, -, hmake⟩ := Validator.make_eq_ok hsecret
  obtain ⟨v, rfl, rfl, rfl⟩ : ∃ v : Validator, v.key = k ∧ v.word = word ∧ v.format = format :=
    ⟨⟨k, word, format⟩, rfl, rfl, rfl⟩
  refine ⟨v, hmake v.word v.format, ?_⟩
  intro date initial other hother today answer
  have hgood : answer = .ok () ↔ _ := Validator.check_other_eq_ok_iff hword
  refine ⟨⟨?_, ?_⟩, Validator.check_eq_invalid_iff.mpr, ?_, ?_⟩
  · intro hok
    obtain ⟨date', issued, hplain, hrest⟩ := hgood.mp hok
    exact ⟨date', issued, date_ne_of_ne hother hplain, hplain, hrest⟩
  · rintro ⟨date', issued, -, hplain, hrest⟩
    exact hgood.mpr ⟨date', issued, hplain, hrest⟩
  · intro hok
    obtain ⟨date', issued, hplain, -⟩ := hgood.mp hok
    exact take_eq_of_front hplain
  · intro hlong
    refine check_other_of_le hword ?_ hother date today
    simp only [front, List.length_append, List.length_singleton]
    omega

/-- A word that fills the first block leaves nothing open: with another initial block the credential
is not good. -/
theorem check_other_initial_long :
    (sampleSecret.length = 32 ∧ ' ' ∉ "AuthenticatedUser".toList) ∧
      ∃ v, Validator.make sampleSecret "AuthenticatedUser" "%Y-%m-%d" = .ok v ∧
        v.check (issue v.key sampleInitial "AuthenticatedUser" "1970-01-01")
          (Encoding.Hex.encode movedInitial.bytes) ⟨1970, 1, 2, by decide, by decide, by decide⟩ =
            .error .invalid := by
  have hsecret : sampleSecret.length = 32 := by decide +kernel
  have hword : ' ' ∉ "AuthenticatedUser".toList := by decide
  obtain ⟨v, hv, h⟩ := check_other_initial (Or.inr (Or.inr hsecret)) hword "%Y-%m-%d"
  obtain ⟨-, -, -, hlong⟩ := h "1970-01-01" sampleInitial movedInitial (by decide)
    ⟨1970, 1, 2, by decide, by decide, by decide⟩
  exact ⟨⟨hsecret, hword⟩, v, hv, hlong (by decide +kernel)⟩

/-- A short word leaves the date open: under a block that differs in two bytes, a credential of
1970 states a date of 2070, and is good again. -/
theorem exists_other_initial : ∃ v,
    Validator.make sampleSecret "Authenticated" "%Y-%m-%d %H:%M:%S UTC" = .ok v ∧
      ' ' ∉ "Authenticated".toList ∧ movedInitial ≠ sampleInitial ∧
      v.check (issue v.key sampleInitial "Authenticated" "1970-01-01 00:00:00 UTC")
        (Encoding.Hex.encode sampleInitial.bytes) ⟨1970, 1, 2, by decide, by decide, by decide⟩ =
          .ok () ∧
      v.check (issue v.key sampleInitial "Authenticated" "1970-01-01 00:00:00 UTC")
        (Encoding.Hex.encode movedInitial.bytes) ⟨2024, 2, 27, by decide, by decide, by decide⟩ =
          .ok () := by
  have hsecret : sampleSecret.length = 32 := by decide +kernel
  have hword : ' ' ∉ "Authenticated".toList := by decide
  have hsame : pad (plainOf "Authenticated" "1970-01-01 00:00:00 UTC") =
      addToFront (sampleInitial.xor sampleInitial)
        (pad (plainOf "Authenticated" "1970-01-01 00:00:00 UTC")) := by decide +kernel
  have hmoved : pad (plainOf "Authenticated" "2070-01-01 00:00:00 UTC") =
      addToFront (sampleInitial.xor movedInitial)
        (pad (plainOf "Authenticated" "1970-01-01 00:00:00 UTC")) := by decide +kernel
  have hread : Date.read? "%Y-%m-%d %H:%M:%S UTC" "1970-01-01 00:00:00 UTC" =
      some ⟨1970, 1, 1, by decide, by decide, by decide⟩ := by decide +kernel
  have hreadMoved : Date.read? "%Y-%m-%d %H:%M:%S UTC" "2070-01-01 00:00:00 UTC" =
      some ⟨2070, 1, 1, by decide, by decide, by decide⟩ := by decide +kernel
  obtain ⟨k, -, hmake⟩ := Validator.make_eq_ok (.inr (.inr hsecret))
  refine ⟨⟨k, _, _⟩, hmake _ _, hword, by decide, ?_, ?_⟩
  · exact (Validator.check_other_eq_ok_iff hword).mpr ⟨_, _, hsame, hread, by decide +kernel⟩
  · exact (Validator.check_other_eq_ok_iff hword).mpr
      ⟨_, _, hmoved, hreadMoved, by decide +kernel⟩

end AccessBroker.External
