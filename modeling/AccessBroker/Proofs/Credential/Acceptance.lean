/-
Which credentials of the external application are good.

A pair of texts decrypts to some bytes exactly if it spells what they are
encrypted to, in digits of either case (`plain?_eq_some_iff`), so a credential is
as good as the bytes in it (`check_spelled`), and `isGood_iff` says what these
have to be. Under the format that is used unless another is set, a credential of
any date is good up to the third day after it, and one of a date or time that
there is not is never good (`check_layout`).
-/
import AccessBroker.Config.Basic
import AccessBroker.Proofs.Calendar.Reading
import AccessBroker.Proofs.Credential.External

namespace AccessBroker.External

open Cipher.Aes (Block Schedule)
open Encoding.Hex (Spells)

/-- What a good credential is, decrypted: a text that has the word up to its first space, and behind
it a date, as part of a moment or else alone, since which no more than three days have gone by. -/
def IsGood (word format : String) (plain : List UInt8) (today : Date) : Prop :=
  ∃ text first rest : String, plain = Text.Utf8.encode text ∧
    text = first ++ " " ++ rest ∧ ' ' ∉ first.toList ∧ first = word ∧
    ∃ issued, (Date.ofMoment? format rest = some issued ∨
        Date.ofMoment? format rest = none ∧ Date.alone? format rest = some issued) ∧
      ∃ deadline, issued.daysLater? 3 = some deadline ∧
        (today = deadline ∨ today.Precedes deadline)

theorem Validator.isCurrent_iff {issued today : Date} : isCurrent issued today = true ↔
    ∃ deadline, issued.daysLater? 3 = some deadline ∧ (today = deadline ∨ today.Precedes deadline) := by
  have hdeadline : issued.plusDays? validityDays = issued.daysLater? 3 :=
    (Date.daysLater?_eq_plusDays? 3 issued).symm
  simp only [← Date.le_iff]
  rw [Validator.isCurrent, hdeadline]
  cases issued.daysLater? 3 with
  | none => simp
  | some deadline => simp

/-- What is good has been written as an issuer writes it, under a word that has no space in it. -/
theorem isGood_iff_plainOf {word format : String} {plain : List UInt8} {today : Date} :
    IsGood word format plain today ↔
      ' ' ∉ word.toList ∧ ∃ date, plain = plainOf word date ∧
        ∃ issued, Date.read? format date = some issued ∧
          Validator.isCurrent issued today = true := by
  simp only [Validator.isCurrent_iff, Date.read?_eq, Option.or_eq_some_iff]
  constructor
  · rintro ⟨_, _, date, rfl, rfl, hword, rfl, hissued⟩
    exact ⟨hword, date, rfl, hissued⟩
  · rintro ⟨hword, date, rfl, hissued⟩
    exact ⟨_, _, date, rfl, rfl, hword, rfl, hissued⟩

/-- What an issuer writes is good by the date in it. -/
theorem isGood_plainOf_iff {word format date : String} (hword : ' ' ∉ word.toList) {today : Date} :
    IsGood word format (plainOf word date) today ↔
      ∃ issued, Date.read? format date = some issued ∧
        Validator.isCurrent issued today = true := by
  rw [isGood_iff_plainOf]
  constructor
  · rintro ⟨-, date', heq, hissued⟩
    rw [plainOf_eq, plainOf_eq] at heq
    have hdate := Text.Utf8.encodeChars_injective (List.append_cancel_left heq)
    rwa [String.toList_inj.mp hdate]
  · exact fun hissued => ⟨hword, date, rfl, hissued⟩

namespace Validator

/-- A word with a space in it stands before no first space. -/
theorem not_mem_of_issued? {v : Validator} {plain : List UInt8} {issued : Date}
    (h : v.issued? plain = some issued) : ' ' ∉ v.word.toList := by
  simp only [issued?, Option.bind_eq_bind, Option.bind_eq_some_iff, Prod.exists] at h
  obtain ⟨text, -, word, date, hsplit, hread⟩ := h
  split at hread
  · next heq =>
    rw [← heq, String.toList_ofList]
    exact (Text.splitFirst?_eq_some_iff.mp hsplit).2
  · cases hread

theorem isGood_iff {v : Validator} {plain : List UInt8} {today : Date} :
    IsGood v.word v.format plain today ↔
      ∃ issued, v.issued? plain = some issued ∧ isCurrent issued today = true := by
  rw [isGood_iff_plainOf]
  constructor
  · rintro ⟨hword, date, rfl, issued, hread, hcurrent⟩
    exact ⟨issued, (issued?_eq_some_iff hword).mpr ⟨date, rfl, hread⟩, hcurrent⟩
  · rintro ⟨issued, hissued, hcurrent⟩
    have hword := not_mem_of_issued? hissued
    obtain ⟨date, rfl, hread⟩ := (issued?_eq_some_iff hword).mp hissued
    exact ⟨hword, date, rfl, issued, hread, hcurrent⟩

/-- What a pair of texts decrypts to is what they spell the encryption of. -/
theorem plain?_eq_some_iff {v : Validator} {ciphertext initial : String} {plain : List UInt8} :
    v.plain? ciphertext initial = some plain ↔
      ∃ block : Block, Spells initial block.bytes ∧
        Spells ciphertext (Cipher.encrypt v.key block plain) := by
  simp only [plain?, Option.bind_eq_bind, Option.bind_eq_some_iff,
    Encoding.Hex.decode?_trim_eq_some_iff, Cipher.decrypt?_eq_some_iff]
  constructor
  · rintro ⟨_, hcipher, _, hinitial, block, hblock, rfl⟩
    exact ⟨block, Cipher.eq_bytes_of_initial? hblock ▸ hinitial, hcipher⟩
  · rintro ⟨block, hinitial, hcipher⟩
    exact ⟨_, hcipher, _, hinitial, block, Cipher.initial?_bytes block, rfl⟩

/-- A pair of texts that spells an encryption is good if what was encrypted is. -/
theorem check_eq_ok_iff_isGood {v : Validator} {block : Block} {plain : List UInt8}
    {ciphertext initial : String} (hcipher : Spells ciphertext (Cipher.encrypt v.key block plain))
    (hinitial : Spells initial block.bytes) {today : Date} :
    v.check ciphertext initial today = .ok () ↔ IsGood v.word v.format plain today := by
  have hplain := plain?_eq_some_iff.mpr ⟨block, hinitial, hcipher⟩
  rw [check_eq_ok_iff, isGood_iff, hplain]
  constructor
  · rintro ⟨_, issued, heq, hissued, hcurrent⟩
    cases heq
    exact ⟨issued, hissued, hcurrent⟩
  · rintro ⟨issued, hissued, hcurrent⟩
    exact ⟨plain, issued, rfl, hissued, hcurrent⟩

end Validator

/-! ## What is good -/

/-- **Which credentials are good.** A pair of texts that spells the encryption of some bytes and its
initial block is good exactly if the bytes are, and no other pair is; what is not good is invalid. -/
theorem check_spelled {secret : List UInt8}
    (hsecret : secret.length = 16 ∨ secret.length = 24 ∨ secret.length = 32)
    (word format : String) :
    ∃ k v, Schedule.ofKey? secret = some k ∧ Validator.make secret word format = .ok v ∧
      (∀ (block : Block) (plain : List UInt8) (ciphertext initial : String) (today : Date),
        Spells ciphertext (Cipher.encrypt k block plain) → Spells initial block.bytes →
          (v.check ciphertext initial today = .ok () ↔ IsGood word format plain today) ∧
          (¬IsGood word format plain today →
            v.check ciphertext initial today = .error .invalid)) ∧
      ∀ (ciphertext initial : String) (today : Date),
        (¬∃ (block : Block) (plain : List UInt8),
          Spells ciphertext (Cipher.encrypt k block plain) ∧ Spells initial block.bytes) →
            v.check ciphertext initial today = .error .invalid := by
  obtain ⟨k, hk, hmake⟩ := Validator.make_eq_ok hsecret
  refine ⟨k, ⟨k, word, format⟩, hk, hmake word format, ?_, ?_⟩
  · intro block plain ciphertext initial today hcipher hinitial
    have hgood : Validator.check ⟨k, word, format⟩ ciphertext initial today = .ok () ↔
        IsGood word format plain today := Validator.check_eq_ok_iff_isGood hcipher hinitial
    exact ⟨hgood, fun hnot => Validator.check_eq_invalid_iff.mpr fun hok => hnot (hgood.mp hok)⟩
  · intro ciphertext initial today hnot
    refine Validator.check_eq_invalid_iff.mpr fun hok => hnot ?_
    obtain ⟨plain, -, hplain, -⟩ := Validator.check_eq_ok_iff.mp hok
    obtain ⟨block, hinitial, hcipher⟩ := Validator.plain?_eq_some_iff.mp hplain
    exact ⟨block, plain, hcipher, hinitial⟩

/-- Some bytes in capital digits, with a tab in front of them and a space behind. -/
def sampleSpelling (bytes : List UInt8) : String :=
  String.ofList (['\t'] ++ (Encoding.Hex.encodeChars bytes).map Text.asciiUpper ++ [' '])

theorem spells_sampleSpelling (bytes : List UInt8) : Spells (sampleSpelling bytes) bytes :=
  Encoding.Hex.spells_capitals (Text.forall_mem_of_all rfl) (Text.forall_mem_of_all rfl) bytes

/-- The third day after 28 February of a leap year. -/
def sampleDeadline : Date := ⟨2020, 3, 2, by decide, by decide, by decide⟩

/-- The day after that. -/
def sampleTooLate : Date := ⟨2020, 3, 3, by decide, by decide, by decide⟩

theorem isGood_sample :
    IsGood "Authenticated" "%Y-%m-%d" (plainOf "Authenticated" "2020-02-28") sampleDeadline := by
  rw [isGood_plainOf_iff (by decide)]
  exact ⟨⟨2020, 2, 28, by decide, by decide, by decide⟩, by decide +kernel, by decide⟩

theorem not_isGood_sample :
    ¬IsGood "Authenticated" "%Y-%m-%d" (plainOf "Authenticated" "2020-02-28") sampleTooLate := by
  rw [isGood_plainOf_iff (by decide)]
  rintro ⟨issued, hread, hcurrent⟩
  have hissued : Date.read? "%Y-%m-%d" "2020-02-28" =
      some ⟨2020, 2, 28, by decide, by decide, by decide⟩ := by decide +kernel
  cases hissued.symm.trans hread
  exact absurd hcurrent (by decide)

theorem not_spells_sample {bytes : List UInt8} : ¬Spells "zz" bytes := by
  rw [← Encoding.Hex.decode?_trim_eq_some_iff]
  have hdecode : Encoding.Hex.decode? (Text.trim "zz") = none := by decide
  simp [hdecode]

/-- Spelled in capitals with blanks around, a credential is good to the last of its days and no
longer; one that spells nothing is not good. -/
theorem check_spelled_capitals :
    (sampleSecret.length = 16 ∨ sampleSecret.length = 24 ∨ sampleSecret.length = 32) ∧
      ∃ k v, Schedule.ofKey? sampleSecret = some k ∧
        Validator.make sampleSecret "Authenticated" "%Y-%m-%d" = .ok v ∧
        let plain := plainOf "Authenticated" "2020-02-28"
        let ciphertext := sampleSpelling (Cipher.encrypt k sampleInitial plain)
        let initial := sampleSpelling sampleInitial.bytes
        Spells ciphertext (Cipher.encrypt k sampleInitial plain) ∧
        Spells initial sampleInitial.bytes ∧
        v.check ciphertext initial sampleDeadline = .ok () ∧
        ¬IsGood "Authenticated" "%Y-%m-%d" plain sampleTooLate ∧
        v.check ciphertext initial sampleTooLate = .error .invalid ∧
        (¬∃ (block : Block) (plain : List UInt8),
          Spells "zz" (Cipher.encrypt k block plain) ∧ Spells initial block.bytes) ∧
        v.check "zz" initial sampleDeadline = .error .invalid := by
  have hsecret : sampleSecret.length = 32 := by decide +kernel
  obtain ⟨k, v, hk, hv, hpair, hnone⟩ :=
    check_spelled (.inr (.inr hsecret)) "Authenticated" "%Y-%m-%d"
  have hcipher := spells_sampleSpelling
    (Cipher.encrypt k sampleInitial (plainOf "Authenticated" "2020-02-28"))
  have hinitial := spells_sampleSpelling sampleInitial.bytes
  have hzz : ¬∃ (block : Block) (plain : List UInt8),
      Spells "zz" (Cipher.encrypt k block plain) ∧
        Spells (sampleSpelling sampleInitial.bytes) block.bytes :=
    fun ⟨_, _, hspells, _⟩ => not_spells_sample hspells
  refine ⟨.inr (.inr hsecret), k, v, hk, hv, hcipher, hinitial, ?_, not_isGood_sample, ?_, hzz,
    hnone _ _ _ hzz⟩
  · exact (hpair _ _ _ _ _ hcipher hinitial).1.mpr isGood_sample
  · exact (hpair _ _ _ _ _ hcipher hinitial).2 not_isGood_sample

/-! ## The window -/

theorem isGood_layout_iff {word : String} (hword : ' ' ∉ word.toList) {l : Calendar.Layout}
    {today : Date} : IsGood word Calendar.layoutFormat (plainOf word l.text) today ↔
      ∃ issued, l.Tells issued ∧ Validator.isCurrent issued today = true := by
  simp only [isGood_plainOf_iff hword, Date.read?_layout]

/-- What tells a date is good up to the third day after it. -/
theorem isGood_layout_of_tells {word : String} (hword : ' ' ∉ word.toList) {l : Calendar.Layout}
    {d : Date} (hd : l.Tells d) : ∃ deadline, d.daysLater? 3 = some deadline ∧
      ∀ today, IsGood word Calendar.layoutFormat (plainOf word l.text) today ↔
        today = deadline ∨ today.Precedes deadline := by
  have hyear : d.year < Calendar.lastYear := by
    have := hd.1.1
    simp only [Calendar.lastYear]
    omega
  obtain ⟨deadline, hdeadline⟩ := Date.exists_daysLater?_of_year hyear (show 3 ≤ 365 by decide)
  refine ⟨deadline, hdeadline, fun today => ?_⟩
  rw [isGood_layout_iff hword]
  constructor
  · rintro ⟨issued, hissued, hcurrent⟩
    obtain rfl : issued = d :=
      Option.some.inj ((Date.read?_layout.mpr hissued).symm.trans (Date.read?_layout.mpr hd))
    obtain ⟨deadline', hdeadline', hwithin⟩ := Validator.isCurrent_iff.mp hcurrent
    cases hdeadline.symm.trans hdeadline'
    exact hwithin
  · exact fun hwithin => ⟨d, hd, Validator.isCurrent_iff.mpr ⟨deadline, hdeadline, hwithin⟩⟩

/-- What tells no date is never good. -/
theorem not_isGood_layout {word : String} (hword : ' ' ∉ word.toList) {l : Calendar.Layout}
    (h : l.IsImpossible) (today : Date) :
    ¬IsGood word Calendar.layoutFormat (plainOf word l.text) today := by
  rw [isGood_layout_iff hword]
  rintro ⟨issued, hissued, -⟩
  exact Calendar.Layout.not_tells h issued hissued

/-- **The window of a credential** under the format that is used unless another is set. One of a date
in the years 0 to 9999 is good up to the third day after it, whatever the time of day; one of a date
or a time that there is not is good on no day. -/
theorem check_layout {secret : List UInt8}
    (hsecret : secret.length = 16 ∨ secret.length = 24 ∨ secret.length = 32)
    {word : String} (hword : ' ' ∉ word.toList) :
    ∃ k v, Schedule.ofKey? secret = some k ∧
      Validator.make secret word Config.default.external.dateFormat = .ok v ∧
      ∀ (block : Block) (l : Calendar.Layout) (ciphertext initial : String),
        Spells ciphertext (Cipher.encrypt k block (plainOf word l.text)) →
        Spells initial block.bytes →
          (∀ d, l.Tells d → ∃ deadline, d.daysLater? 3 = some deadline ∧
            ∀ today, v.check ciphertext initial today = .ok () ↔
              today = deadline ∨ today.Precedes deadline) ∧
          (l.IsImpossible → ∀ today, v.check ciphertext initial today = .error .invalid) := by
  obtain ⟨k, hk, hmake⟩ := Validator.make_eq_ok hsecret
  refine ⟨k, ⟨k, word, Calendar.layoutFormat⟩, hk, hmake word _, ?_⟩
  intro block l ciphertext initial hcipher hinitial
  have hcheck : ∀ today, Validator.check ⟨k, word, Calendar.layoutFormat⟩ ciphertext initial today =
      .ok () ↔ IsGood word Calendar.layoutFormat (plainOf word l.text) today :=
    fun _ => Validator.check_eq_ok_iff_isGood hcipher hinitial
  constructor
  · intro d hd
    obtain ⟨deadline, hdeadline, hgood⟩ := isGood_layout_of_tells hword hd
    exact ⟨deadline, hdeadline, fun today => (hcheck today).trans (hgood today)⟩
  · intro himpossible today
    refine Validator.check_eq_invalid_iff.mpr fun hok => ?_
    exact not_isGood_layout hword himpossible today ((hcheck today).mp hok)

/-- A leap second of 28 February of a leap year. -/
def sampleMoment : Calendar.Layout := ⟨2020, 2, 28, 23, 59, 60⟩

/-- A 29 February that a year which is no leap year would have. -/
def sampleImpossible : Calendar.Layout := ⟨1900, 2, 29, 0, 0, 0⟩

/-- A credential of a leap second is good to the last of its days and no longer, and one of a day
that never was is not good. -/
theorem check_layout_leap :
    (sampleSecret.length = 16 ∨ sampleSecret.length = 24 ∨ sampleSecret.length = 32) ∧
      ' ' ∉ "Authenticated".toList ∧
      ∃ k v, Schedule.ofKey? sampleSecret = some k ∧
        Validator.make sampleSecret "Authenticated" Config.default.external.dateFormat = .ok v ∧
        let good := issue k sampleInitial "Authenticated" sampleMoment.text
        let bad := issue k sampleInitial "Authenticated" sampleImpossible.text
        let initial := Encoding.Hex.encode sampleInitial.bytes
        sampleMoment.text = "2020-02-28 23:59:60 UTC" ∧
        v.check good initial sampleDeadline = .ok () ∧
        v.check good initial sampleTooLate ≠ .ok () ∧
        sampleImpossible.text = "1900-02-29 00:00:00 UTC" ∧
        sampleImpossible.IsImpossible ∧
        v.check bad initial sampleDeadline = .error .invalid := by
  have hsecret : sampleSecret.length = 32 := by decide +kernel
  have hword : ' ' ∉ "Authenticated".toList := by decide
  have hspells := Encoding.Hex.spells_encode
  have hbad : sampleImpossible.IsImpossible := by decide
  obtain ⟨k, v, hk, hv, hcheck⟩ := check_layout (.inr (.inr hsecret)) hword
  obtain ⟨deadline, hdeadline, hgood⟩ :=
    (hcheck sampleInitial sampleMoment _ _ (hspells _) (hspells _)).1
      ⟨2020, 2, 28, by decide, by decide, by decide⟩ (by decide)
  have hsample : deadline = sampleDeadline :=
    Option.some.inj (hdeadline.symm.trans (by decide))
  rw [hsample] at hgood
  refine ⟨.inr (.inr hsecret), hword, k, v, hk, hv, by decide, ?_, ?_, by decide, hbad, ?_⟩
  · exact (hgood _).mpr (.inl rfl)
  · exact fun hok => absurd ((hgood _).mp hok) (by decide)
  · exact (hcheck _ _ _ _ (hspells _) (hspells _)).2 hbad _

end AccessBroker.External
