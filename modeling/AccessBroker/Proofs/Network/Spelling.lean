/-
How network blocks are spelled.

A block is spelled by an address, a slash and a numeral, which a plus sign may
stand before (`Spells`). `ofText_eq_ok_iff_spells`: a text is read as a block exactly
if, without the blank characters around it, it spells one of at most 32 bits.
Blocks are read back from their own text (`ofText_text`), and a list of texts is
read as a whole or not at all (`exists_ofTexts_iff`), with the first text that is
no block for the reason (`refusal?_ofTexts`).
-/
import AccessBroker.Proofs.Address.Dotted
import AccessBroker.Proofs.Network.Classifier
import AccessBroker.Proofs.Refusal
import AccessBroker.Proofs.Text.Blank

namespace AccessBroker.Network

open AddressV4 (IsDotted)
open Text (IsNumeral)

/-! ## One block -/

namespace Block

/-- An address, a slash and a number, which a plus sign may stand before. -/
def Spells (cs : List Char) (a : AddressV4) (n : Nat) : Prop :=
  ∃ address number digits, cs = address ++ '/' :: number ∧ (number = digits ∨ number = '+' :: digits) ∧
    IsDotted address a ∧ IsNumeral digits n

/-- Only digits and dots stand in an address. -/
theorem mem_of_isDotted {cs : List Char} {a : AddressV4} (h : IsDotted cs a) {c : Char}
    (hc : c ∈ cs) : c = '.' ∨ ∃ d < 10, c = Nat.digitChar d := by
  obtain ⟨parts, hparts, rfl⟩ := h
  rcases Text.mem_of_mem_intercalate hc with hdot | ⟨part, hpart, hc⟩
  · exact .inl hdot
  · obtain ⟨n, -, hoctet⟩ := Classifier.exists_right hparts hpart
    exact .inr (hoctet.numeral.exists_digitChar hc)

theorem slash_not_mem_of_isDotted {cs : List Char} {a : AddressV4} (h : IsDotted cs a) :
    '/' ∉ cs := by
  have hdigit : ∀ d < 10, '/' ≠ Nat.digitChar d := by decide
  intro hc
  rcases mem_of_isDotted h hc with heq | ⟨d, hd, heq⟩
  · exact absurd heq (by decide)
  · exact hdigit d hd heq

theorem written?_eq_some_iff {s : String} {a : AddressV4} {n : Nat} :
    written? s = some (a, n) ↔ n ≤ 255 ∧ Spells (Text.trim s).toList a n := by
  have hnumber : ∀ cs, (Text.readNat 255 cs).toOption = some n ↔ Text.readNat 255 cs = .ok n := by
    intro cs
    cases Text.readNat 255 cs <;> simp [Except.toOption]
  rw [written?, Text.toList_trim]
  simp only [Option.bind_eq_bind, Option.bind_eq_some_iff, Prod.exists, Text.splitFirst?_eq_some_iff,
    AddressV4.ofChars?_eq_some_iff, Option.some.injEq, Prod.mk.injEq]
  constructor
  · rintro ⟨address, number, ⟨hsplit, -⟩, a', haddress, n', hread, rfl, rfl⟩
    obtain ⟨hle, digits, hsign, hnumeral⟩ := Text.readNat_eq_ok_iff.mp ((hnumber number).mp hread)
    exact ⟨hle, address, number, digits, hsplit, hsign, haddress, hnumeral⟩
  · rintro ⟨hle, address, number, digits, hsplit, hsign, haddress, hnumeral⟩
    exact ⟨address, number, ⟨hsplit, slash_not_mem_of_isDotted haddress⟩, a, haddress, n,
      (hnumber number).mpr (Text.readNat_eq_ok_iff.mpr ⟨hle, digits, hsign, hnumeral⟩), rfl, rfl⟩

/-- **What is read as a block.** -/
theorem ofText_eq_ok_iff_spells {s : String} {b : Block} :
    ofText s = .ok b ↔ b.length ≤ 32 ∧
      ∃ a, Spells (Text.trim s).toList a b.length ∧ b.network = a.masked b.length := by
  rw [ofText_eq_ok_iff]
  constructor
  · rintro ⟨a, hwritten, hle, hnetwork⟩
    exact ⟨hle, a, (written?_eq_some_iff.mp hwritten).2, hnetwork⟩
  · rintro ⟨hle, a, hspells, hnetwork⟩
    exact ⟨a, written?_eq_some_iff.mpr ⟨by omega, hspells⟩, hle, hnetwork⟩

/-- The block of an address has its leading bits, and the others cleared. -/
theorem exists_of (a : AddressV4) {n : Nat} (h : n ≤ 32) :
    ∃ b, of a n = .ok b ∧ b.length = n ∧ b.network = a.masked n :=
  ⟨⟨a.masked n, n, h, a.masked_masked n⟩, of_eq_ok_iff.mpr ⟨rfl, h, rfl⟩, rfl, rfl⟩

theorem exists_ofText_iff {s : String} :
    (∃ b, ofText s = .ok b) ↔ ∃ a n, Spells (Text.trim s).toList a n ∧ n ≤ 32 := by
  simp only [ofText_eq_ok_iff_spells]
  constructor
  · rintro ⟨b, hle, a, hspells, -⟩
    exact ⟨a, b.length, hspells, hle⟩
  · rintro ⟨a, n, hspells, hle⟩
    obtain ⟨b, -, rfl, hnetwork⟩ := exists_of a hle
    exact ⟨b, hle, a, hspells, hnetwork⟩

/-- The text of a block spells it. -/
theorem spells_text (b : Block) : Spells b.text.toList b.network b.length := by
  refine ⟨b.network.chars, Text.natDigits b.length, Text.natDigits b.length, ?_, .inl rfl,
    AddressV4.isDotted_chars b.network, Text.isNumeral_natDigits b.length⟩
  simp only [text, AddressV4.text, Text.natText, String.toList_append, String.toList_ofList,
    List.append_assoc]
  rfl

theorem Spells.isBlank {cs : List Char} {a : AddressV4} {n : Nat} (h : Spells cs a n) :
    ∀ c ∈ cs, Text.isBlank c = false := by
  have hdigit : ∀ d < 10, Text.isBlank (Nat.digitChar d) = false := by decide
  obtain ⟨address, number, digits, rfl, hsign, haddress, hnumeral⟩ := h
  have hdigits : ∀ c ∈ digits, Text.isBlank c = false := fun c hc => by
    obtain ⟨d, hd, rfl⟩ := hnumeral.exists_digitChar hc
    exact hdigit d hd
  have hnumber : ∀ c ∈ number, Text.isBlank c = false := by
    rcases hsign with rfl | rfl
    · exact hdigits
    · exact List.forall_mem_cons.mpr ⟨by decide, hdigits⟩
  intro c hc
  rcases List.mem_append.mp hc with hc | hc
  · rcases mem_of_isDotted haddress hc with rfl | ⟨d, hd, rfl⟩
    · decide
    · exact hdigit d hd
  · exact List.forall_mem_cons.mpr ⟨by decide, hnumber⟩ c hc

/-- **A block is read back from its text.** -/
theorem ofText_text (b : Block) : ofText b.text = .ok b := by
  have htrim : Text.trim b.text = b.text := Text.trim_of_all b.spells_text.isBlank
  exact ofText_eq_ok_iff_spells.mpr
    ⟨b.length_le, b.network, by rw [htrim]; exact b.spells_text, b.masked_eq.symm⟩

end Block

/-! ## Lists of blocks -/

namespace Classifier

/-- The first text that is no block is the reason why texts are not compiled. -/
theorem refusal?_ofTexts (texts : List String) :
    refusal? (ofTexts texts) = texts.findSome? fun s => refusal? (Block.ofText s) := by
  rw [ofTexts, refusal?_map, refusal?_mapM]

/-- Texts are compiled if each of them is a block. -/
theorem exists_ofTexts_iff {texts : List String} :
    (∃ c, ofTexts texts = .ok c) ↔ ∀ s ∈ texts, ∃ b, Block.ofText s = .ok b := by
  simp only [← refusal?_eq_none_iff, refusal?_ofTexts, List.findSome?_eq_none_iff]

theorem blocks_foldl_insert : ∀ (blocks : List Block) (c : Classifier),
    (blocks.foldl insert c).blocks = c.blocks ++ blocks
  | [], c => (List.append_nil _).symm
  | b :: blocks, c => by
    rw [List.foldl_cons, blocks_foldl_insert blocks, insert, List.append_assoc]
    rfl

/-- The blocks stand in the order in which they were compiled, each as often as it was. -/
theorem blocks_ofBlocks (blocks : List Block) : (ofBlocks blocks).blocks = blocks :=
  blocks_foldl_insert blocks empty

/-- The blocks are those that the texts are read as, one for each text and in their order. -/
theorem forall₂_blocks {texts : List String} {c : Classifier} (h : ofTexts texts = .ok c) :
    List.Forall₂ (fun s b => Block.ofText s = .ok b) texts c.blocks := by
  obtain ⟨blocks, hblocks, rfl⟩ := ofTexts_eq_ok_iff.mp h
  rw [blocks_ofBlocks]
  exact mapM_ok_iff.mp hblocks

/-- **Blocks and their texts.** A text is read as a block exactly if, without the blank characters
around it, it is an address, a slash and a number of at most 32; the block has the leading bits of
the address, and the others cleared. The block of any address and length is read back from its own
text. A list of texts is compiled exactly if each of them is read, and its blocks are those read, in
the order of the texts. -/
theorem blocks_spelled :
    (∀ s, (∃ b, Block.ofText s = .ok b) ↔
      ∃ a n, Block.Spells (Text.trim s).toList a n ∧ n ≤ 32) ∧
    (∀ s b, Block.ofText s = .ok b ↔ ∃ a n, Block.Spells (Text.trim s).toList a n ∧ n ≤ 32 ∧
      b.length = n ∧ ∀ i, b.network.bit i = (a.bit i && decide (i < n))) ∧
    (∀ a n, n ≤ 32 → ∃ b, Block.of a n = .ok b ∧ Block.ofText b.text = .ok b) ∧
    (∀ texts, (∃ c, ofTexts texts = .ok c) ↔ ∀ s ∈ texts, ∃ b, Block.ofText s = .ok b) ∧
    ∀ texts c, ofTexts texts = .ok c →
      List.Forall₂ (fun s b => Block.ofText s = .ok b) texts c.blocks := by
  refine ⟨fun _ => Block.exists_ofText_iff, fun s b => ?_, fun a n hle => ?_,
    fun _ => exists_ofTexts_iff, fun _ _ => forall₂_blocks⟩
  · rw [Block.ofText_eq_ok_iff_spells]
    constructor
    · rintro ⟨hle, a, hspells, hnetwork⟩
      refine ⟨a, b.length, hspells, hle, rfl, fun i => ?_⟩
      rw [hnetwork, AddressV4.bit_masked a hle]
    · rintro ⟨a, n, hspells, hle, rfl, hbits⟩
      refine ⟨hle, a, hspells, AddressV4.ext_bit fun i _ => ?_⟩
      rw [hbits, AddressV4.bit_masked a hle]
  · obtain ⟨b, hb, -⟩ := Block.exists_of a hle
    exact ⟨b, hb, b.ofText_text⟩

/-- 192.168.0.77 with 24 bits, spelled with zeros and a sign, and the text of the same block. -/
theorem blocks_spelled_twice : ∃ b c, Block.of (.ofOctets 192 168 0 77) 24 = .ok b ∧
    b.text = "192.168.0.0/24" ∧ Block.ofText " 192.168.0.77/+024\n" = .ok b ∧
    ofTexts [" 192.168.0.77/+024\n", b.text] = .ok c ∧ c.blocks = [b, b] := by
  obtain ⟨-, -, hof, hlist, hblocks⟩ := blocks_spelled
  obtain ⟨b, hb, hself⟩ := hof (.ofOctets 192 168 0 77) 24 (by decide)
  have hspelled : Block.ofText " 192.168.0.77/+024\n" = .ok b := hb ▸ rfl
  obtain ⟨c, hc⟩ := (hlist [" 192.168.0.77/+024\n", b.text]).mpr
    (by simp [hspelled, hself])
  have hread := hblocks _ c hc
  refine ⟨b, c, hb, ?_, hspelled, hc, ?_⟩
  · obtain rfl := Except.ok.inj hb
    decide +kernel
  · simp only [List.forall₂_cons_left_iff, List.forall₂_nil_left_iff, hspelled, hself,
      Except.ok.injEq] at hread
    obtain ⟨_, _, rfl, ⟨_, _, rfl, rfl, rfl⟩, hblocks⟩ := hread
    exact hblocks

end Classifier

end AccessBroker.Network
