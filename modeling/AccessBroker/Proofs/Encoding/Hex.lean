/-
Bytes read back from hexadecimal digits.

`decode?_encode`: what is written is read back, and trimming loses nothing of
what is written. What else is read as some bytes is a spelling of them, with the
digits in either case and blanks around them, and every spelling is
(`decode?_trim_eq_some_iff`).
-/
import AccessBroker.Encoding.Hex
import AccessBroker.Proofs.Text.Blank
import AccessBroker.Proofs.Text.Number

namespace AccessBroker.Encoding.Hex

theorem decodeChars?_encodeChars : ∀ bytes : List UInt8, decodeChars? (encodeChars bytes) = some bytes
  | [] => rfl
  | b :: rest => by
    have hb := b.toNat_lt
    have ih := decodeChars?_encodeChars rest
    rw [encodeChars] at ih
    rw [encodeChars, List.flatMap_cons, List.cons_append, List.cons_append, List.nil_append,
      decodeChars?, Text.hexDigit?_digitChar _ (by omega), Text.hexDigit?_digitChar _ (by omega), ih]
    simp only [Option.bind_eq_bind, Option.bind_some, Nat.div_add_mod', UInt8.ofNat_toNat]

/-- **Bytes survive their digits.** -/
theorem decode?_encode (bytes : List UInt8) : decode? (encode bytes) = some bytes := by
  rw [decode?, encode, String.toList_ofList, decodeChars?_encodeChars]

theorem not_isBlank_of_mem_encodeChars {bytes : List UInt8} {c : Char} (h : c ∈ encodeChars bytes) :
    Text.isBlank c = false := by
  rw [encodeChars, List.mem_flatMap] at h
  obtain ⟨b, -, hc⟩ := h
  have hb := b.toNat_lt
  simp only [List.mem_cons, List.not_mem_nil, or_false] at hc
  rcases hc with rfl | rfl
  · exact Text.isBlank_digitChar _ (by omega)
  · exact Text.isBlank_digitChar _ (by omega)

theorem trim_encode (bytes : List UInt8) : Text.trim (encode bytes) = encode bytes := by
  refine Text.trim_of_all fun c hc => ?_
  rw [encode, String.toList_ofList] at hc
  exact not_isBlank_of_mem_encodeChars hc

/-! ## Spellings -/

/-- Digits, in either case, are read as the bytes that are written with them. -/
theorem decodeChars?_eq_some_iff : ∀ {cs : List Char} {bytes : List UInt8},
    decodeChars? cs = some bytes ↔ cs.map Text.asciiLower = encodeChars bytes
  | [], [] => by simp [decodeChars?, encodeChars]
  | [], b :: bytes => by simp [decodeChars?, encodeChars]
  | [c], [] => by simp [decodeChars?, encodeChars]
  | [c], b :: bytes => by simp [decodeChars?, encodeChars]
  | c :: d :: cs, [] => by
    simp only [decodeChars?, Option.bind_eq_bind, Option.bind_eq_some_iff, Option.some.injEq]
    simp [encodeChars]
  | c :: d :: cs, b :: bytes => by
    have hb := b.toNat_lt
    have hbyte : ∀ {m n : Nat}, m < 16 → n < 16 →
        (UInt8.ofNat (m * 16 + n) = b ↔ m = b.toNat / 16 ∧ n = b.toNat % 16) := by
      intro m n hm hn
      rw [← UInt8.toNat_inj, UInt8.toNat_ofNat']
      omega
    have hcons : encodeChars (b :: bytes) =
      Nat.digitChar (b.toNat / 16) :: Nat.digitChar (b.toNat % 16) :: encodeChars bytes := rfl
    simp only [decodeChars?, Option.bind_eq_bind, Option.bind_eq_some_iff, Option.some.injEq,
      List.cons.injEq, Text.hexDigit?_eq_some_iff, List.map_cons, hcons]
    constructor
    · rintro ⟨m, ⟨hm, hc⟩, n, ⟨hn, hd⟩, rest, hrest, hsum, rfl⟩
      obtain ⟨rfl, rfl⟩ := (hbyte hm hn).mp hsum
      exact ⟨hc, hd, decodeChars?_eq_some_iff.mp hrest⟩
    · rintro ⟨hc, hd, hrest⟩
      have hm : b.toNat / 16 < 16 := by omega
      have hn : b.toNat % 16 < 16 := by omega
      exact ⟨_, ⟨hm, hc⟩, _, ⟨hn, hd⟩, bytes, decodeChars?_eq_some_iff.mpr hrest,
        (hbyte hm hn).mpr ⟨rfl, rfl⟩, rfl⟩

/-- A text that holds the digits of some bytes, each in either case, and blanks around them. -/
def Spells (s : String) (bytes : List UInt8) : Prop :=
  ∃ front digits back, s.toList = front ++ digits ++ back ∧
    (∀ c ∈ front, Text.isBlank c = true) ∧ (∀ c ∈ back, Text.isBlank c = true) ∧
    digits.map Text.asciiLower = encodeChars bytes

/-- **What is read, once trimmed, is a spelling.** -/
theorem decode?_trim_eq_some_iff {s : String} {bytes : List UInt8} :
    decode? (Text.trim s) = some bytes ↔ Spells s bytes := by
  rw [decode?, Text.toList_trim, decodeChars?_eq_some_iff]
  constructor
  · intro h
    obtain ⟨front, back, hs, hfront, hback⟩ := Text.exists_trimChars_append s.toList
    exact ⟨front, _, back, hs, hfront, hback, h⟩
  · rintro ⟨front, digits, back, hs, hfront, hback, h⟩
    have hdigits : ∀ c ∈ digits, Text.isBlank c = false := fun c hc =>
      Text.isBlank_of_asciiLower (not_isBlank_of_mem_encodeChars (h ▸ List.mem_map_of_mem hc))
    rw [hs, Text.trimChars_append hfront hdigits hback, h]

/-- What is written is a spelling. -/
theorem spells_encode (bytes : List UInt8) : Spells (encode bytes) bytes := by
  rw [← decode?_trim_eq_some_iff, trim_encode, decode?_encode]

/-- What is written stays a spelling in capital digits, and with blanks around it. -/
theorem spells_capitals {front back : List Char} (hfront : ∀ c ∈ front, Text.isBlank c = true)
    (hback : ∀ c ∈ back, Text.isBlank c = true) (bytes : List UInt8) :
    Spells (String.ofList (front ++ (encodeChars bytes).map Text.asciiUpper ++ back)) bytes := by
  have hlower : ∀ n < 16, Text.asciiLower (Text.asciiUpper (Nat.digitChar n)) = Nat.digitChar n := by
    decide
  refine ⟨front, _, back, String.toList_ofList, hfront, hback, ?_⟩
  rw [List.map_map]
  refine (List.map_congr_left fun c hc => ?_).trans (List.map_id _)
  rw [encodeChars, List.mem_flatMap] at hc
  obtain ⟨b, -, hc⟩ := hc
  have hb := b.toNat_lt
  simp only [List.mem_cons, List.not_mem_nil, or_false] at hc
  rcases hc with rfl | rfl
  · exact hlower _ (by omega)
  · exact hlower _ (by omega)

end AccessBroker.Encoding.Hex
