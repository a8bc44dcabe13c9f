/-
The grammar of addresses of version 4.

An octet is a numeral of at most three digits, without a zero in front of
another digit, that is worth at most 255 (`IsOctet`). Four of them with dots
between are an address (`IsDotted`); that is what is read (`ofChars?_eq_some_iff`),
and what is written (`isDotted_chars`).
-/
import AccessBroker.Proofs.Address.V4
import AccessBroker.Proofs.Text.Numeral
import Mathlib.Data.List.Forall2

namespace AccessBroker.AddressV4

open Text (IsNumeral)

/-- One to three digits, no zero in front of another, worth at most 255. -/
structure IsOctet (cs : List Char) (n : Nat) : Prop where
  numeral : IsNumeral cs n
  length_le : cs.length ≤ 3
  not_zero_first : ∀ rest, cs = '0' :: rest → rest = []
  le : n ≤ 255

/-- Four octets with dots between them, which spell those of an address. -/
def IsDotted (cs : List Char) (a : AddressV4) : Prop :=
  ∃ parts, List.Forall₂ IsOctet parts a.octets ∧ cs = List.intercalate ['.'] parts

theorem octet?_eq_some_iff {cs : List Char} {n : Nat} : octet? cs = some n ↔ IsOctet cs n := by
  rw [octet?]
  constructor
  · intro h
    split at h
    · cases h
    next hlength =>
    split at h
    · cases h
    next hzero =>
    rw [not_or] at hlength
    have hne : cs ≠ [] := fun hnil => hlength.1 (by rw [hnil]; rfl)
    cases hread : Text.digitsFrom 255 0 cs with
    | error e => rw [hread] at h; cases h
    | ok m =>
      rw [hread] at h
      obtain rfl : m = n := Option.some.inj h
      obtain ⟨hle, hnumeral⟩ := (Text.digitsFrom_zero_eq_ok_iff hne).mp hread
      refine ⟨hnumeral, by omega, ?_, hle⟩
      rintro rest rfl
      by_contra hrest
      have hpos := List.length_pos_iff.mpr hrest
      exact hzero ⟨rfl, by rw [List.length_cons]; omega⟩
  · intro h
    have hne := h.numeral.ne_nil
    rw [if_neg, if_neg, (Text.digitsFrom_zero_eq_ok_iff hne).mpr ⟨h.le, h.numeral⟩]
    · rfl
    · rintro ⟨hhead, hlength⟩
      obtain ⟨rest, rfl⟩ := List.head?_eq_some_iff.mp hhead
      rw [h.not_zero_first rest rfl] at hlength
      exact absurd hlength (by decide)
    · rw [not_or]
      exact ⟨fun hnil => hne (List.length_eq_zero_iff.mp hnil), Nat.not_lt.mpr h.length_le⟩

theorem IsOctet.dot_not_mem {cs : List Char} {n : Nat} (h : IsOctet cs n) : '.' ∉ cs :=
  h.numeral.not_mem (by decide)

theorem octets_ofOctets {a b c d : Nat} (ha : a ≤ 255) (hb : b ≤ 255) (hc : c ≤ 255)
    (hd : d ≤ 255) : (ofOctets a b c d).octets = [a, b, c, d] := by
  have hbits : (ofOctets a b c d).bits.toNat = ((a * 256 + b) * 256 + c) * 256 + d := by
    rw [ofOctets, BitVec.toNat_ofNat]
    omega
  simp only [octets, hbits, List.cons.injEq, and_true]
  omega

/-- **What is read as an address.** -/
theorem ofChars?_eq_some_iff {cs : List Char} {a : AddressV4} :
    ofChars? cs = some a ↔ IsDotted cs a := by
  constructor
  · intro h
    refine ⟨Text.splitAll '.' cs, ?_, (Text.intercalate_splitAll cs).symm⟩
    rw [ofChars?] at h
    split at h
    · next s₁ s₂ s₃ s₄ hparts =>
      simp only [Option.bind_eq_bind, Option.bind_eq_some_iff, octet?_eq_some_iff,
        Option.some.injEq] at h
      obtain ⟨n₁, h₁, n₂, h₂, n₃, h₃, n₄, h₄, rfl⟩ := h
      rw [octets_ofOctets h₁.le h₂.le h₃.le h₄.le, hparts]
      exact .cons h₁ (.cons h₂ (.cons h₃ (.cons h₄ .nil)))
    · cases h
  · rintro ⟨parts, hparts, rfl⟩
    simp only [octets, List.forall₂_cons_right_iff, List.forall₂_nil_right_iff] at hparts
    obtain ⟨s₁, _, h₁, ⟨s₂, _, h₂, ⟨s₃, _, h₃, ⟨s₄, _, h₄, rfl, rfl⟩, rfl⟩, rfl⟩, rfl⟩ := hparts
    have hdot : ∀ part ∈ [s₁, s₂, s₃, s₄], '.' ∉ part := by
      simp [h₁.dot_not_mem, h₂.dot_not_mem, h₃.dot_not_mem, h₄.dot_not_mem]
    rw [ofChars?, Text.splitAll_intercalate (List.cons_ne_nil _ _) hdot]
    simp only [octet?_eq_some_iff.mpr h₁, octet?_eq_some_iff.mpr h₂, octet?_eq_some_iff.mpr h₃,
      octet?_eq_some_iff.mpr h₄, Option.bind_eq_bind, Option.bind_some, ofOctets_octets]

theorem isDotted_chars (a : AddressV4) : IsDotted a.chars a :=
  ofChars?_eq_some_iff.mp (ofChars?_chars a)

end AccessBroker.AddressV4
