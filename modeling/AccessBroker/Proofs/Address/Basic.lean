/-
What the text of an address says.

An address is read back from its text, whichever version it has
(`ofText?_text`), so no two addresses have the same text. Hence comparing the
texts of canonical forms compares the forms themselves
(`canonicalText_eq_iff`). A text of an address needs no escape in JSON, being
made of digits, colons and dots (`text_subset`).
-/
import AccessBroker.Address.Basic
import AccessBroker.Proofs.Address.V6

namespace AccessBroker.Address

/-- **An address is read back from its text.** -/
theorem ofText?_text (a : Address) : ofText? a.text = some a := by
  cases a with
  | v4 a =>
    rw [ofText?, text, AddressV4.ofText?, AddressV4.text, String.toList_ofList,
      AddressV4.ofChars?_chars]
  | v6 a =>
    rw [ofText?, text, AddressV4.ofText?, AddressV6.ofText?, AddressV6.text, String.toList_ofList,
      AddressV6.v4_ofChars?_chars, AddressV6.ofChars?_chars]
    rfl

theorem text_injective {a b : Address} (h : a.text = b.text) : a = b := by
  have ha := ofText?_text a
  rw [h, ofText?_text, Option.some.injEq] at ha
  exact ha.symm

/-- Two canonical forms have the same text only if they are the same. -/
theorem canonicalText_eq_iff {a b : Address} :
    a.canonicalText = b.canonicalText ↔ a.canonical = b.canonical := by
  constructor
  · exact text_injective
  · intro h
    rw [canonicalText, canonicalText, h]

/-! ## The characters of an address -/

theorem text_subset (a : Address) : a.text.toList ⊆ alphabet := by
  cases a with
  | v4 a =>
    rw [text, AddressV4.text, String.toList_ofList]
    exact a.chars_subset
  | v6 a =>
    rw [text, AddressV6.text, String.toList_ofList]
    exact a.chars_subset

theorem two_le_length_text (a : Address) :
    2 ≤ a.text.toList.length ∧ (a.text.toList.length = 2 → a.text = "::") := by
  cases a with
  | v4 a =>
    have hlong := a.seven_le_length_chars
    rw [text, AddressV4.text, String.toList_ofList]
    exact ⟨by omega, fun h => by omega⟩
  | v6 a =>
    rw [text, AddressV6.text, String.toList_ofList]
    exact ⟨a.two_le_length_chars.1, fun h => congrArg String.ofList (a.two_le_length_chars.2 h)⟩

/-- The text of the address whose bits are all zero. -/
theorem canonicalText_eq_colons_iff {a : Address} :
    a.canonicalText = "::" ↔ a.canonical = .v6 ⟨0⟩ := by
  have hzero : canonicalText (.v6 ⟨0⟩) = "::" := by decide
  rw [← hzero, canonicalText_eq_iff]
  rfl

end AccessBroker.Address
