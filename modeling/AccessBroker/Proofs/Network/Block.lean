/-
What a network block says about an address.

A block is written as an address and a number of bits, and keeps the address
with the bits after these cleared. Whether an address lies in the block hangs
on the leading bits alone: `contains_iff` compares them with those of the block,
`masked_eq_masked_iff` says that clearing keeps what the leading bits tell, and
`ofText_eq_ok_iff` which address and number a text writes.
-/
import AccessBroker.Network.Block
import Mathlib.Data.List.Range

namespace AccessBroker

namespace AddressV4

theorem mask_bit {n : Nat} (hn : n ≤ 32) (i : Nat) : (mask n).getMsbD i = decide (i < n) := by
  rw [mask, BitVec.getMsbD_shiftLeft, BitVec.getMsbD_allOnes]
  exact decide_eq_decide.mpr (by omega)

theorem bit_masked (a : AddressV4) {n : Nat} (hn : n ≤ 32) (i : Nat) :
    (a.masked n).bit i = (a.bit i && decide (i < n)) := by
  rw [bit, masked, BitVec.getMsbD_and, mask_bit hn, bit]

theorem ext_bit {a b : AddressV4} (h : ∀ i < 32, a.bit i = b.bit i) : a = b := by
  obtain ⟨x⟩ := a
  obtain ⟨y⟩ := b
  congr 1
  exact BitVec.eq_of_getMsbD_eq fun i hi => h i hi

/-- Two addresses are alike once masked if their leading bits are. -/
theorem masked_eq_masked_iff {a b : AddressV4} {n : Nat} (hn : n ≤ 32) :
    a.masked n = b.masked n ↔ ∀ i < n, a.bit i = b.bit i := by
  constructor
  · intro h i hi
    have hbit : (a.masked n).bit i = (b.masked n).bit i := by rw [h]
    simpa [bit_masked _ hn, hi] using hbit
  · intro h
    refine ext_bit fun i _ => ?_
    rw [bit_masked a hn, bit_masked b hn]
    by_cases hi : i < n
    · rw [h i hi]
    · simp [hi]

end AddressV4

namespace Network.Block

/-- The address and the number of bits that a text writes, nothing cleared. -/
def written? (s : String) : Option (AddressV4 × Nat) := do
  let (address, bits) ← Text.splitFirst? '/' (Text.trimChars s.toList)
  let a ← AddressV4.ofChars? address
  let n ← (Text.readNat 255 bits).toOption
  some (a, n)

theorem of_eq_ok_iff {a : AddressV4} {n : Nat} {b : Block} :
    of a n = .ok b ↔ b.length = n ∧ n ≤ 32 ∧ b.network = a.masked n := by
  unfold of
  split
  · next h =>
    rw [Except.ok.injEq]
    constructor
    · rintro rfl
      exact ⟨rfl, h, rfl⟩
    · obtain ⟨network, length, hle, hmasked⟩ := b
      rintro ⟨hlen, -, hnet⟩
      simp only at hlen hnet
      subst hlen hnet
      rfl
  · next h => simp [h]

theorem ofText_eq_ok_iff {s : String} {b : Block} :
    ofText s = .ok b ↔ ∃ a, written? s = some (a, b.length) ∧ b.length ≤ 32 ∧
      b.network = a.masked b.length := by
  unfold ofText written?
  simp only [Text.toList_trim]
  cases Text.splitFirst? '/' (Text.trimChars s.toList) with
  | none => simp
  | some parts =>
    obtain ⟨address, bits⟩ := parts
    cases ha : AddressV4.ofChars? address with
    | none => simp [ha]
    | some a =>
      cases hn : Text.readNat 255 bits with
      | error e => simp [ha, hn, Except.toOption]
      | ok n =>
        simp only [ha, hn, Except.toOption, Option.bind_eq_bind, Option.bind_some, Option.some.injEq,
          Prod.mk.injEq, of_eq_ok_iff]
        constructor
        · rintro ⟨rfl, hle, hnet⟩
          exact ⟨a, ⟨rfl, rfl⟩, hle, hnet⟩
        · rintro ⟨a', ⟨rfl, rfl⟩, hle, hnet⟩
          exact ⟨rfl, hle, hnet⟩

theorem contains_iff (b : Block) (a : AddressV4) :
    b.contains a = true ↔ ∀ i < b.length, a.bit i = b.network.bit i := by
  rw [contains, decide_eq_true_eq]
  conv_lhs => rw [← b.masked_eq]
  exact AddressV4.masked_eq_masked_iff b.length_le

/-- The bits of a block begin an address that lies in it, and no other. -/
theorem path_prefix_iff (b : Block) (a : AddressV4) :
    b.path <+: (List.range 32).map a.bit ↔ b.contains a = true := by
  have htake : ((List.range 32).map a.bit).take b.path.length =
      (List.range b.length).map a.bit := by
    rw [path, List.length_map, List.length_range, ← List.map_take, List.take_range,
      Nat.min_eq_left b.length_le]
  rw [List.prefix_iff_eq_take, htake, contains_iff, path, List.map_inj_left]
  constructor
  · intro h i hi
    exact (h i (List.mem_range.mpr hi)).symm
  · intro h i hi
    exact (h i (List.mem_range.mp hi)).symm

end Network.Block

end AccessBroker
