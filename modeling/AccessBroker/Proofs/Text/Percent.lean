/-
Text read back from its spelling with percent signs.

A byte is read back from its spelling (`decodeBytes_spell`), and a character that
is not spelled stands for itself as long as the set picks out the percent sign.
So a text is read back from its spelling (`decode?_encode`), which holds no
characters but those of spellings and those the set leaves alone
(`mem_encodeChars`).
-/
import AccessBroker.Text.Percent
import AccessBroker.Proofs.Text.Utf8

namespace AccessBroker.Text.Percent

/-- The digit of a spelling. -/
def spellDigit (n : Nat) : Char := asciiUpper (Nat.digitChar n)

/-- The characters of spellings. -/
def spellChars : List Char := "%0123456789ABCDEF".toList

theorem spell_eq (b : UInt8) :
    spell b = ['%', spellDigit (b.toNat / 16), spellDigit (b.toNat % 16)] := rfl

theorem encodeChar_spellDigit : ∀ n < 16,
    Utf8.encodeChar (spellDigit n) = [UInt8.ofNat (spellDigit n).toNat] ∧
      hexValue? (UInt8.ofNat (spellDigit n).toNat) = some n := by
  decide

theorem spellDigit_mem : ∀ n < 16, spellDigit n ∈ spellChars := by decide

theorem mem_spell {b : UInt8} {c : Char} (h : c ∈ spell b) : c ∈ spellChars := by
  have hb := b.toNat_lt
  simp only [spell_eq, List.mem_cons, List.not_mem_nil, or_false] at h
  rcases h with rfl | rfl | rfl
  · exact List.mem_cons_self
  · exact spellDigit_mem _ (by omega)
  · exact spellDigit_mem _ (by omega)

/-- A byte is read back from its spelling. -/
theorem decodeBytes_spell (b : UInt8) (rest : List UInt8) :
    decodeBytes (Utf8.encodeChars (spell b) ++ rest) = b :: decodeBytes rest := by
  have hb := b.toNat_lt
  obtain ⟨hhigh, hhigh'⟩ := encodeChar_spellDigit (b.toNat / 16) (by omega)
  obtain ⟨hlow, hlow'⟩ := encodeChar_spellDigit (b.toNat % 16) (by omega)
  have hbytes : Utf8.encodeChars (spell b) = [0x25,
      UInt8.ofNat (spellDigit (b.toNat / 16)).toNat,
      UInt8.ofNat (spellDigit (b.toNat % 16)).toNat] := by
    rw [spell_eq, Utf8.encodeChars_cons, Utf8.encodeChars_cons, Utf8.encodeChars_cons, hhigh, hlow]
    rfl
  rw [hbytes]
  simp only [List.cons_append, List.nil_append, decodeBytes, hhigh', hlow']
  rw [Nat.div_add_mod, UInt8.ofNat_toNat]

theorem decodeBytes_spell_flatMap : ∀ (bytes rest : List UInt8),
    decodeBytes (Utf8.encodeChars (bytes.flatMap spell) ++ rest) = bytes ++ decodeBytes rest
  | [], _ => rfl
  | b :: bytes, rest => by
    rw [List.flatMap_cons, Utf8.encodeChars_append, List.append_assoc, decodeBytes_spell,
      decodeBytes_spell_flatMap bytes rest, List.cons_append]

theorem decodeBytes_of_ne {b : UInt8} (h : b ≠ 0x25) (rest : List UInt8) :
    decodeBytes (b :: rest) = b :: decodeBytes rest := by
  rw [decodeBytes]
  rintro _ _ _ rfl
  exact absurd rfl h

theorem decodeBytes_eq_nil_iff {bytes : List UInt8} : decodeBytes bytes = [] ↔ bytes = [] := by
  cases bytes with
  | nil => exact Iff.rfl
  | cons b rest =>
    refine iff_of_false ?_ (List.cons_ne_nil b rest)
    unfold decodeBytes
    split
    · next h => cases h
    · split <;> exact List.cons_ne_nil _ _
    · exact List.cons_ne_nil _ _

variable {inSet : Char → Bool}

theorem decodeBytes_encodeChar (hpercent : inSet '%' = true) (c : Char) (rest : List UInt8) :
    decodeBytes (Utf8.encodeChars (encodeChar inSet c) ++ rest) =
      Utf8.encodeChar c ++ decodeBytes rest := by
  unfold encodeChar
  split
  · exact decodeBytes_spell_flatMap (Utf8.encodeChar c) rest
  · next hplain =>
    have hascii : c.toNat < 0x80 := by
      simp only [isOutside, Bool.or_eq_true, decide_eq_true_eq, not_or] at hplain
      omega
    have hne : UInt8.ofNat c.toNat ≠ 0x25 := by
      intro heq
      have hnat := congrArg UInt8.toNat heq
      rw [Utf8.toNat_ofNat_of_lt (by omega)] at hnat
      have hc : c = '%' := Char.toNat_inj.mp hnat
      rw [hc, hpercent, Bool.or_true] at hplain
      exact hplain rfl
    rw [Utf8.encodeChars_cons, Utf8.encodeChars_nil, List.append_nil, Utf8.encodeChar_ascii hascii,
      List.singleton_append, decodeBytes_of_ne hne, List.singleton_append]

theorem decodeBytes_encodeChars (hpercent : inSet '%' = true) : ∀ cs : List Char,
    decodeBytes (Utf8.encodeChars (encodeChars inSet cs)) = Utf8.encodeChars cs
  | [] => rfl
  | c :: cs => by
    have ih := decodeBytes_encodeChars hpercent cs
    rw [encodeChars] at ih
    rw [encodeChars, List.flatMap_cons, Utf8.encodeChars_append, decodeBytes_encodeChar hpercent, ih,
      Utf8.encodeChars_cons]

/-- **Text survives its spelling.** -/
theorem decode?_encode (hpercent : inSet '%' = true) (s : String) :
    decode? (encode inSet s) = some s := by
  rw [decode?, encode, Utf8.encode, String.toList_ofList, decodeBytes_encodeChars hpercent]
  exact Utf8.decode?_encode s

/-- What stands in a spelled text. -/
theorem mem_encodeChars {cs : List Char} {c : Char} (h : c ∈ encodeChars inSet cs) :
    c ∈ spellChars ∨ (c ∈ cs ∧ isOutside c = false ∧ inSet c = false) := by
  rw [encodeChars, List.mem_flatMap] at h
  obtain ⟨d, hd, hc⟩ := h
  unfold encodeChar at hc
  split at hc
  · obtain ⟨b, -, hb⟩ := List.mem_flatMap.mp hc
    exact .inl (mem_spell hb)
  · next hplain =>
    rw [List.mem_singleton.mp hc]
    right
    rw [Bool.or_eq_true, not_or, Bool.not_eq_true, Bool.not_eq_true] at hplain
    exact ⟨hd, hplain⟩

theorem encodeChars_ne_nil {cs : List Char} (h : cs ≠ []) : encodeChars inSet cs ≠ [] := by
  cases cs with
  | nil => exact absurd rfl h
  | cons c cs =>
    rw [encodeChars, List.flatMap_cons]
    refine List.append_ne_nil_of_left_ne_nil ?_ _
    unfold encodeChar
    split
    · obtain ⟨a, tail, hbytes, -⟩ := Utf8.scan_encodeChar c []
      rw [hbytes, List.flatMap_cons, spell_eq]
      exact List.cons_ne_nil _ _
    · exact List.cons_ne_nil _ _

/-- Nothing but the empty text spells the empty text. -/
theorem eq_empty_of_decode? {s : String} (h : decode? s = some "") : s = "" := by
  obtain ⟨cs, hcs, hempty⟩ := Option.map_eq_some_iff.mp h
  have hbytes := Utf8.encodeChars_of_decodeChars? hcs
  rw [String.ofList_eq_empty_iff.mp hempty, Utf8.encodeChars_nil, decodeBytes_eq_nil_iff,
    Utf8.encode] at hbytes
  have hlength := Utf8.length_le_length_encodeChars s.toList
  rw [hbytes, List.length_nil, Nat.le_zero, List.length_eq_zero_iff] at hlength
  exact String.toList_eq_nil_iff.mp hlength

end AccessBroker.Text.Percent
