/-
Version 4 addresses read back from their text.

Each octet is read from its digits (`octet?_natDigits`), and the four make up
the address again (`ofOctets_octets`), so the text determines the address.
-/
import AccessBroker.Address.V4
import AccessBroker.Proofs.Text.Number
import AccessBroker.Proofs.Text.Split

namespace AccessBroker.Address

/-- The characters that texts of addresses are made of. -/
def alphabet : List Char := "0123456789abcdef:.".toList

theorem digitChar_mem_alphabet : ∀ d < 16, Nat.digitChar d ∈ alphabet := by decide

end AccessBroker.Address

namespace AccessBroker.AddressV4

theorem digitChar_ne_zero : ∀ d < 10, Nat.digitChar d = '0' → d = 0 := by decide

theorem length_natDigits_le {n : Nat} (h : n ≤ 255) : (Text.natDigits n).length ≤ 3 := by
  rw [Text.natDigits_eq_map, List.length_map]
  exact Text.length_digitsIn_le (by omega) (Nat.lt_of_le_of_lt h (by decide))

/-- An octet is read back from its digits. -/
theorem octet?_natDigits {n : Nat} (h : n ≤ 255) : octet? (Text.natDigits n) = some n := by
  have hlength := length_natDigits_le h
  have hread := Text.digitsFrom_natDigits h
  rw [octet?, if_neg, if_neg, hread]
  · rfl
  · rintro ⟨hhead, hone⟩
    rw [Text.natDigits_eq_map] at hhead hone
    cases hds : Text.digitsIn 8 n with
    | nil => exact Text.digitsIn_ne_nil 8 n hds
    | cons d ds =>
      rw [hds, List.map_cons, List.head?_cons, Option.some.injEq] at hhead
      have hd : d < 10 := Text.lt_of_mem_digitsIn (hds ▸ List.mem_cons_self)
      rw [digitChar_ne_zero d hd hhead] at hds
      rw [hds, (Text.eq_zero_of_digitsIn hds).2] at hone
      exact absurd hone (by simp)
  · rw [not_or]
    refine ⟨?_, by omega⟩
    rw [List.length_eq_zero_iff, Text.natDigits_eq_map, List.map_eq_nil_iff]
    exact Text.digitsIn_ne_nil 8 n

theorem dot_not_mem_natDigits (n : Nat) : '.' ∉ Text.natDigits n :=
  Text.not_mem_toDigits (b := 8) (by decide)

theorem colon_not_mem_natDigits (n : Nat) : ':' ∉ Text.natDigits n :=
  Text.not_mem_toDigits (b := 8) (by decide)

/-- The octets make up the address. -/
theorem ofOctets_octets (a : AddressV4) :
    ofOctets (a.bits.toNat / 16777216) (a.bits.toNat / 65536 % 256) (a.bits.toNat / 256 % 256)
      (a.bits.toNat % 256) = a := by
  obtain ⟨bits⟩ := a
  have hbits := bits.isLt
  rw [ofOctets]
  congr 1
  rw [← BitVec.toNat_inj, BitVec.toNat_ofNat]
  dsimp only
  omega

/-- The parts of the text of an address between its dots. -/
theorem splitAll_chars (a : AddressV4) :
    Text.splitAll '.' a.chars = a.octets.map Text.natDigits := by
  refine Text.splitAll_intercalate (by simp [octets]) fun part hpart => ?_
  obtain ⟨n, -, rfl⟩ := List.mem_map.mp hpart
  exact dot_not_mem_natDigits n

/-- **An address is read back from its text.** -/
theorem ofChars?_chars (a : AddressV4) : ofChars? a.chars = some a := by
  have hbits := a.bits.isLt
  have h1 := octet?_natDigits (show a.bits.toNat / 16777216 ≤ 255 by omega)
  have h2 := octet?_natDigits (show a.bits.toNat / 65536 % 256 ≤ 255 by omega)
  have h3 := octet?_natDigits (show a.bits.toNat / 256 % 256 ≤ 255 by omega)
  have h4 := octet?_natDigits (show a.bits.toNat % 256 ≤ 255 by omega)
  rw [ofChars?, splitAll_chars]
  simp only [octets, List.map_cons, List.map_nil, h1, h2, h3, h4, Option.bind_eq_bind,
    Option.bind_some, ofOctets_octets]

theorem chars_eq (a : AddressV4) : a.chars =
    Text.natDigits (a.bits.toNat / 16777216) ++
      '.' :: (Text.natDigits (a.bits.toNat / 65536 % 256) ++
        '.' :: (Text.natDigits (a.bits.toNat / 256 % 256) ++
          '.' :: Text.natDigits (a.bits.toNat % 256))) := by
  simp [chars, octets, List.intercalate_cons_cons, List.intercalate_singleton]

theorem colon_not_mem_chars (a : AddressV4) : ':' ∉ a.chars := by
  simp [chars_eq, colon_not_mem_natDigits]

/-- The text of an address is too long for one group of version 6. -/
theorem seven_le_length_chars (a : AddressV4) : 7 ≤ a.chars.length := by
  have hpos : ∀ n, 0 < (Text.natDigits n).length := fun _ => Nat.length_toDigits_pos
  have h1 := hpos (a.bits.toNat / 16777216)
  have h2 := hpos (a.bits.toNat / 65536 % 256)
  have h3 := hpos (a.bits.toNat / 256 % 256)
  have h4 := hpos (a.bits.toNat % 256)
  simp only [chars_eq, List.length_append, List.length_cons]
  omega

theorem natDigits_subset (n : Nat) : Text.natDigits n ⊆ Address.alphabet := by
  intro c hc
  obtain ⟨d, hd, rfl⟩ := Text.exists_digitChar_of_mem_toDigits (b := 8) hc
  exact Address.digitChar_mem_alphabet d (by omega)

theorem chars_subset (a : AddressV4) : a.chars ⊆ Address.alphabet := by
  have hdot : '.' ∈ Address.alphabet := by decide
  simp only [chars_eq, List.append_subset, List.cons_subset, natDigits_subset, hdot, and_self]

end AccessBroker.AddressV4
