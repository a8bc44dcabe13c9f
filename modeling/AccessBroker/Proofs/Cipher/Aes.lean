/-
Decryption undoes encryption, for every key.

Each step of a round is undone by the one beside it. The mixing of columns is
the one that needs an argument: doubling is additive (`double_xor`), hence both
mixings are, and both commute with turning a column, so it is enough to look at
the columns of which the top byte at most is not zero (`unmixColumn_mixColumn`).
`decrypt_encrypt` takes the rounds off one by one; since there are finitely many
blocks, encryption undoes decryption as well (`encrypt_decrypt`).
`exists_ofKey?_iff` says which keys there are.
-/
import AccessBroker.Cipher.Aes
import Mathlib.Data.Finite.Prod

namespace AccessBroker.Cipher.Aes

theorem forall_byte {P : UInt8 → Prop} (h : ∀ n < 256, P (UInt8.ofNat n)) (b : UInt8) : P b := by
  have hb := h b.toNat b.toNat_lt
  rwa [UInt8.ofNat_toNat] at hb

/-! ## Sums -/

theorem Column.xor_xor (x y : Column) : (x.xor y).xor y = x := by
  simp only [Column.xor, UInt8.xor_assoc, UInt8.xor_self, UInt8.xor_zero]

theorem Block.xor_xor (x y : Block) : (x.xor y).xor y = x := by
  simp [Block.xor, Column.xor_xor]

theorem Block.xor_assoc (x y z : Block) : (x.xor y).xor z = x.xor (y.xor z) := by
  simp only [Block.xor, Column.xor, UInt8.xor_assoc]

theorem Block.xor_xor_self (x y : Block) : x.xor (x.xor y) = y := by
  simp only [Block.xor, Column.xor, ← UInt8.xor_assoc, UInt8.xor_self, UInt8.zero_xor]

theorem xor_swap (a b c d : UInt8) : (a ^^^ b) ^^^ (c ^^^ d) = (a ^^^ c) ^^^ (b ^^^ d) := by
  rw [UInt8.xor_assoc, UInt8.xor_assoc, ← UInt8.xor_assoc b, UInt8.xor_comm b, UInt8.xor_assoc c]

/-! ## Substitution and rows -/

theorem unsubstitute_substitute (b : UInt8) : unsubstitute (substitute b) = b :=
  forall_byte (P := fun b => unsubstitute (substitute b) = b) (by decide +kernel) b

theorem map_unsubstitute (x : Block) : (x.map substitute).map unsubstitute = x := by
  simp [Block.map, Column.map, unsubstitute_substitute]

theorem unshiftRows_shiftRows (x : Block) : unshiftRows (shiftRows x) = x := rfl

/-! ## Columns -/

/-- What doubling adds for the bit that is shifted out. -/
def carry (b : UInt8) : UInt8 := if b &&& 0x80 = 0 then 0 else 0x1B

theorem and_top : ∀ b : UInt8, b &&& 0x80 = 0 ∨ b &&& 0x80 = 0x80 :=
  forall_byte (by decide +kernel)

theorem carry_xor (a b : UInt8) : carry (a ^^^ b) = carry a ^^^ carry b := by
  have hand : (a ^^^ b) &&& 0x80 = (a &&& 0x80) ^^^ (b &&& 0x80) := by
    rw [← UInt8.toBitVec_inj]
    ext i hi
    simp [Bool.and_xor_distrib_right]
  unfold carry
  rw [hand]
  rcases and_top a with ha | ha <;> rcases and_top b with hb | hb <;> rw [ha, hb] <;> decide

theorem double_xor (a b : UInt8) : double (a ^^^ b) = double a ^^^ double b := by
  have hdouble : ∀ c, double c = (c <<< 1) ^^^ carry c := fun _ => rfl
  rw [hdouble, hdouble, hdouble, UInt8.shiftLeft_xor, carry_xor, xor_swap]

theorem triple_xor (a b : UInt8) : triple (a ^^^ b) = triple a ^^^ triple b := by
  rw [triple, triple, triple, double_xor, xor_swap]

theorem times_xor (e f t o : Bool) (a b : UInt8) :
    times e f t o (a ^^^ b) = times e f t o a ^^^ times e f t o b := by
  have hpart : ∀ (p : Bool) (x y : UInt8),
      (if p then x ^^^ y else 0) = (if p then x else 0) ^^^ (if p then y else 0) := by
    intro p x y
    cases p <;> simp
  simp only [times, double_xor, hpart, xor_swap]

theorem mixColumn_xor (x y : Column) : mixColumn (x.xor y) = (mixColumn x).xor (mixColumn y) := by
  simp only [mixColumn, Column.xor, double_xor, triple_xor, Column.mk.injEq]
  refine ⟨?_, ?_, ?_, ?_⟩ <;> ac_rfl

theorem unmixColumn_xor (x y : Column) :
    unmixColumn (x.xor y) = (unmixColumn x).xor (unmixColumn y) := by
  simp only [unmixColumn, Column.xor, nine, eleven, thirteen, fourteen, times_xor,
    Column.mk.injEq]
  refine ⟨?_, ?_, ?_, ?_⟩ <;> ac_rfl

theorem mixColumn_turn (x : Column) : mixColumn x.turn = (mixColumn x).turn := by
  simp only [mixColumn, Column.turn, Column.mk.injEq]
  refine ⟨?_, ?_, ?_, ?_⟩ <;> ac_rfl

theorem unmixColumn_turn (x : Column) : unmixColumn x.turn = (unmixColumn x).turn := by
  simp only [unmixColumn, Column.turn, Column.mk.injEq]
  refine ⟨?_, ?_, ?_, ?_⟩ <;> ac_rfl

theorem unmixColumn_mixColumn_top (b : UInt8) :
    unmixColumn (mixColumn ⟨b, 0, 0, 0⟩) = ⟨b, 0, 0, 0⟩ := by
  revert b
  exact forall_byte (by decide +kernel)

/-- A column is a sum of columns with one byte each, all turned from the top. -/
theorem Column.eq_sum (x : Column) : x =
    ((Column.mk x.a 0 0 0).xor (Column.mk x.b 0 0 0).turn.turn.turn).xor
      ((Column.mk x.c 0 0 0).turn.turn.xor (Column.mk x.d 0 0 0).turn) := by
  simp [Column.xor, Column.turn]

theorem unmixColumn_mixColumn (x : Column) : unmixColumn (mixColumn x) = x := by
  rw [x.eq_sum]
  simp only [mixColumn_xor, unmixColumn_xor, mixColumn_turn, unmixColumn_turn,
    unmixColumn_mixColumn_top]

theorem unmixColumns_mixColumns (x : Block) : unmixColumns (mixColumns x) = x := by
  simp [unmixColumns, mixColumns, unmixColumn_mixColumn]

/-! ## Rounds -/

theorem unround_round (x key : Block) : unround (round x key) key = x := by
  rw [unround, round, Block.xor_xor, unmixColumns_mixColumns, unshiftRows_shiftRows,
    map_unsubstitute]

theorem foldr_unround_foldl_round : ∀ (keys : List Block) (x : Block),
    keys.foldr (fun key y => unround y key) (keys.foldl round x) = x
  | [], _ => rfl
  | key :: keys, x => by
    rw [List.foldr_cons, List.foldl_cons, foldr_unround_foldl_round keys, unround_round]

/-- **Decryption undoes encryption.** For every stretched key and every block. -/
theorem decrypt_encrypt (k : Schedule) (x : Block) : decrypt k (encrypt k x) = x := by
  rw [decrypt, encrypt, Block.xor_xor, unshiftRows_shiftRows, map_unsubstitute,
    foldr_unround_foldl_round, Block.xor_xor]

/-- There are finitely many blocks. -/
theorem finite_block : Finite Block := by
  have hbyte : Finite UInt8 := .of_injective UInt8.toFin fun _ _ h => UInt8.toFin_inj.mp h
  have hcolumn : Finite Column := by
    refine .of_injective (fun x => (x.a, x.b, x.c, x.d)) fun x y h => ?_
    obtain ⟨_, _, _, _⟩ := x
    cases h
    rfl
  refine .of_injective (fun x => (x.p, x.q, x.r, x.s)) fun x y h => ?_
  obtain ⟨_, _, _, _⟩ := x
  cases h
  rfl

/-- **Encryption undoes decryption.** No two blocks are encrypted alike, so every block is what one
of them is encrypted to. -/
theorem encrypt_decrypt (k : Schedule) (y : Block) : encrypt k (decrypt k y) = y := by
  have hleft : Function.LeftInverse (decrypt k) (encrypt k) := decrypt_encrypt k
  have := finite_block
  have hsurjective := Finite.injective_iff_surjective.mp hleft.injective
  exact hleft.rightInverse_of_surjective hsurjective y

/-! ## Keys -/

theorem length_stretch (size : Nat) : ∀ (n i : Nat) (before : List Column),
    (stretch size n i before).length = n + before.length
  | 0, _, before => by simp [stretch]
  | n + 1, i, before => by
    rw [stretch, length_stretch size n]
    simp
    omega

theorem exists_blocks_eq_cons : ∀ (xs : List Column), 4 ≤ xs.length →
    ∃ first rest, blocks xs = first :: rest
  | p :: q :: r :: s :: rest, _ => ⟨_, _, rfl⟩
  | [], h | [_], h | [_, _], h | [_, _, _], h => by
    simp at h

/-- A stretched key exists for exactly the lengths 16, 24 and 32. -/
theorem exists_ofKey?_iff {key : List UInt8} :
    (∃ k, Schedule.ofKey? key = some k) ↔
      key.length = 16 ∨ key.length = 24 ∨ key.length = 32 := by
  constructor
  · rintro ⟨k, hk⟩
    rw [Schedule.ofKey?] at hk
    split at hk
    · assumption
    · cases hk
  · intro hlength
    obtain ⟨first, rest, hblocks⟩ := exists_blocks_eq_cons
      (stretch (key.length / 4) (4 * (key.length / 4 + 7) - key.length / 4) (key.length / 4)
        (columns key).reverse).reverse (by
      rw [List.length_reverse, length_stretch]
      omega)
    refine ⟨⟨first, rest.dropLast, rest.getLast?.getD .zero⟩, ?_⟩
    simp only [Schedule.ofKey?, if_pos hlength, hblocks]

end AccessBroker.Cipher.Aes
