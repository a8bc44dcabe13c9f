/-
Bytes read back from base 64.

`decode?_encode`: what is written is read back, whatever the number of bytes
modulo three. The letters are never blank, so neither is what they spell lost
when the text is trimmed.
-/
import AccessBroker.Encoding.Base64
import AccessBroker.Proofs.Text.Blank

namespace AccessBroker.Encoding.Base64

theorem value?_letter : ∀ n < 64, value? (letter n) = some n := by decide

theorem letter_ne_sign : ∀ n < 64, letter n ≠ '=' := by decide

theorem isBlank_letter : ∀ n < 64, Text.isBlank (letter n) = false := by decide

theorem ofNat_toNat_eq {b : UInt8} {n : Nat} (h : n % 256 = b.toNat) : UInt8.ofNat n = b := by
  rw [← UInt8.toNat_inj, UInt8.toNat_ofNat', h]

/-- Four letters, the last of which is no sign of filling, are three bytes. -/
theorem decodeChars?_four {a b c d : Char} (hd : d ≠ '=') (rest : List Char) :
    decodeChars? (a :: b :: c :: d :: rest) = (do
      let n := (((← value? a) * 64 + (← value? b)) * 64 + (← value? c)) * 64 + (← value? d)
      let bytes ← decodeChars? rest
      some (UInt8.ofNat (n / 65536) :: UInt8.ofNat (n / 256) :: UInt8.ofNat n :: bytes)) := by
  rw [decodeChars?]
  · exact fun _ h => absurd h hd
  · exact fun h => absurd h hd

theorem decodeChars?_encodeChars : ∀ bytes : List UInt8, decodeChars? (encodeChars bytes) = some bytes
  | [] => rfl
  | [a] => by
    have ha := a.toNat_lt
    simp only [encodeChars, decodeChars?]
    rw [value?_letter _ (by omega), value?_letter _ (by omega)]
    simp only [Option.bind_eq_bind, Option.bind_some]
    rw [if_pos (by omega), ofNat_toNat_eq (b := a) (by omega)]
  | [a, b] => by
    have ha := a.toNat_lt
    have hb := b.toNat_lt
    simp only [encodeChars]
    rw [decodeChars?]
    · rw [value?_letter _ (by omega), value?_letter _ (by omega), value?_letter _ (by omega)]
      simp only [Option.bind_eq_bind, Option.bind_some]
      rw [if_pos (by omega), ofNat_toNat_eq (b := a) (by omega), ofNat_toNat_eq (b := b) (by omega)]
    · exact letter_ne_sign _ (by omega)
  | a :: b :: c :: rest => by
    have ha := a.toNat_lt
    have hb := b.toNat_lt
    have hc := c.toNat_lt
    simp only [encodeChars]
    rw [decodeChars?_four (letter_ne_sign _ (by omega)), value?_letter _ (by omega),
      value?_letter _ (by omega), value?_letter _ (by omega), value?_letter _ (by omega),
      decodeChars?_encodeChars rest]
    simp only [Option.bind_eq_bind, Option.bind_some]
    rw [ofNat_toNat_eq (b := a) (by omega), ofNat_toNat_eq (b := b) (by omega),
      ofNat_toNat_eq (b := c) (by omega)]

/-- **Bytes survive their letters.** -/
theorem decode?_encode (bytes : List UInt8) : decode? (encode bytes) = some bytes := by
  rw [decode?, encode, String.toList_ofList, decodeChars?_encodeChars]

/-- A letter, or the sign that fills up. -/
def IsLetter (c : Char) : Prop := c = '=' ∨ ∃ n < 64, c = letter n

theorem isLetter_of_mem : ∀ {bytes : List UInt8} {c : Char}, c ∈ encodeChars bytes → IsLetter c
  | [], c, h => by simp [encodeChars] at h
  | [a], c, h => by
    have ha := a.toNat_lt
    simp only [encodeChars, List.mem_cons, List.not_mem_nil, or_false] at h
    rcases h with rfl | rfl | rfl | rfl
    · exact .inr ⟨_, by omega, rfl⟩
    · exact .inr ⟨_, by omega, rfl⟩
    · exact .inl rfl
    · exact .inl rfl
  | [a, b], c, h => by
    have ha := a.toNat_lt
    have hb := b.toNat_lt
    simp only [encodeChars, List.mem_cons, List.not_mem_nil, or_false] at h
    rcases h with rfl | rfl | rfl | rfl
    · exact .inr ⟨_, by omega, rfl⟩
    · exact .inr ⟨_, by omega, rfl⟩
    · exact .inr ⟨_, by omega, rfl⟩
    · exact .inl rfl
  | a :: b :: d :: rest, c, h => by
    have ha := a.toNat_lt
    have hb := b.toNat_lt
    have hd := d.toNat_lt
    simp only [encodeChars, List.mem_cons] at h
    rcases h with rfl | rfl | rfl | rfl | h
    · exact .inr ⟨_, by omega, rfl⟩
    · exact .inr ⟨_, by omega, rfl⟩
    · exact .inr ⟨_, by omega, rfl⟩
    · exact .inr ⟨_, by omega, rfl⟩
    · exact isLetter_of_mem h

theorem isBlank_of_isLetter {c : Char} (h : IsLetter c) : Text.isBlank c = false := by
  rcases h with rfl | ⟨n, hn, rfl⟩
  · rfl
  · exact isBlank_letter n hn

theorem trim_encode (bytes : List UInt8) : Text.trim (encode bytes) = encode bytes := by
  refine Text.trim_of_all fun c hc => ?_
  rw [encode, String.toList_ofList] at hc
  exact isBlank_of_isLetter (isLetter_of_mem hc)

end AccessBroker.Encoding.Base64
