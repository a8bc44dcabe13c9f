/-
The compiled network and the list it was compiled from.

`isPrivileged_ofBlocks`: the trie answers what a look through the list of
blocks answers, whatever their order, nesting and repetition.
`isPrivileged_ofTexts_iff`: in terms of the texts loaded, an address is
privileged when its canonical form is of version 4 and begins with the leading
bits of an address that some text writes.
-/
import AccessBroker.Network.Classifier
import AccessBroker.Proofs.Network.Block
import AccessBroker.Proofs.Network.Trie
import Mathlib.Data.List.Forall2

namespace AccessBroker.Network.Classifier

/-- Texts are all read, or none is: the results stand in the order of the texts. -/
theorem mapM_ok_iff {α β ε : Type} {f : α → Except ε β} {xs : List α} {ys : List β} :
    xs.mapM f = .ok ys ↔ List.Forall₂ (fun x y => f x = .ok y) xs ys := by
  induction xs generalizing ys with
  | nil => cases ys <;> simp [pure, Except.pure]
  | cons x xs ih =>
    rw [List.mapM_cons]
    cases hx : f x with
    | error e => cases ys <;> simp [bind, Except.bind, hx]
    | ok y =>
      cases hxs : xs.mapM f with
      | error e => cases ys <;> simp [bind, Except.bind, ← ih, hx, hxs]
      | ok rest => cases ys <;> simp [bind, Except.bind, pure, Except.pure, ← ih, hx, hxs]

theorem exists_right {α β : Type} {R : α → β → Prop} {xs : List α} {ys : List β}
    (h : List.Forall₂ R xs ys) {x : α} (hx : x ∈ xs) : ∃ y ∈ ys, R x y := by
  induction h with
  | nil => simp at hx
  | @cons a b as bs hab _ ih =>
    rcases List.mem_cons.mp hx with rfl | hx
    · exact ⟨b, List.mem_cons_self, hab⟩
    · obtain ⟨y, hy, hxy⟩ := ih hx
      exact ⟨y, List.mem_cons_of_mem b hy, hxy⟩

/-- Inserting blocks keeps the trie sound and adds what begins with one of their paths. -/
theorem covers_foldl_insert : ∀ (blocks : List Block) {c : Classifier}, c.trie.Sound →
    ∀ q, (blocks.foldl insert c).trie.covers q = true ↔
      c.trie.covers q = true ∨ ∃ b ∈ blocks, b.path <+: q
  | [], c, _, q => by simp
  | b :: blocks, c, h, q => by
    have hstep : (c.insert b).trie.Sound := h.insert b.path
    rw [List.foldl_cons, covers_foldl_insert blocks hstep]
    rw [insert, Trie.covers_insert_iff h]
    simp [or_assoc]

theorem coversV4_ofBlocks (blocks : List Block) (a : AddressV4) :
    (ofBlocks blocks).coversV4 a = blocks.any (·.contains a) := by
  rw [Bool.eq_iff_iff, coversV4, ofBlocks, covers_foldl_insert blocks Trie.Sound.empty]
  simp [empty, Trie.covers_empty, Block.path_prefix_iff]

/-- The trie answers as the list of blocks does. -/
theorem isPrivileged_ofBlocks (blocks : List Block) (ip : Address) :
    (ofBlocks blocks).isPrivileged ip = onList blocks ip := by
  unfold isPrivileged onList
  cases ip.canonical with
  | v4 a => exact coversV4_ofBlocks blocks a
  | v6 a => rfl

theorem ofTexts_eq_ok_iff {texts : List String} {c : Classifier} :
    ofTexts texts = .ok c ↔ ∃ blocks, texts.mapM Block.ofText = .ok blocks ∧ c = ofBlocks blocks := by
  unfold ofTexts
  cases texts.mapM Block.ofText with
  | error e => simp [Except.map]
  | ok blocks => simp [Except.map, eq_comm]

theorem onList_iff (blocks : List Block) (ip : Address) :
    onList blocks ip = true ↔ ∃ a, ip.canonical = .v4 a ∧ ∃ b ∈ blocks, b.contains a = true := by
  unfold onList
  cases ip.canonical <;> simp

/-- **The trie and the texts.** Once all texts are read as blocks, an address is privileged exactly
if its canonical form is of version 4 and one of the texts writes an address with the same leading
bits, as many as the text says. -/
theorem isPrivileged_ofTexts_iff {texts : List String} {c : Classifier} (h : ofTexts texts = .ok c)
    (ip : Address) :
    c.isPrivileged ip = true ↔
      ∃ a, ip.canonical = .v4 a ∧ ∃ s ∈ texts, ∃ written n,
        Block.written? s = some (written, n) ∧ ∀ i < n, a.bit i = written.bit i := by
  obtain ⟨blocks, hblocks, rfl⟩ := ofTexts_eq_ok_iff.mp h
  rw [isPrivileged_ofBlocks, onList_iff]
  refine exists_congr fun a => and_congr_right fun _ => ?_
  have hread := mapM_ok_iff.mp hblocks
  constructor
  · rintro ⟨b, hb, hcontains⟩
    obtain ⟨s, hs, hok⟩ := exists_right hread.flip hb
    obtain ⟨written, hwritten, hle, hnet⟩ := Block.ofText_eq_ok_iff.mp hok
    rw [Block.contains, decide_eq_true_eq, hnet, AddressV4.masked_eq_masked_iff hle] at hcontains
    exact ⟨s, hs, written, b.length, hwritten, hcontains⟩
  · rintro ⟨s, hs, written, n, hwritten, hbits⟩
    obtain ⟨b, hb, hok⟩ := exists_right hread hs
    obtain ⟨written', hwritten', hle, hnet⟩ := Block.ofText_eq_ok_iff.mp hok
    rw [hwritten] at hwritten'
    obtain ⟨rfl, rfl⟩ : written = written' ∧ n = b.length := by simpa using hwritten'
    refine ⟨b, hb, ?_⟩
    rw [Block.contains, decide_eq_true_eq, hnet, AddressV4.masked_eq_masked_iff hle]
    exact hbits

/-- An address outside a small block and inside the larger one around it. -/
theorem isPrivileged_ofTexts_nested :
    ∃ c, ofTexts ["10.1.2.3/16", " 10.0.0.9/8", "192.168.7.7/32"] = .ok c ∧
      c.isPrivileged (.v6 (.ofMapped (.ofOctets 10 200 0 1))) = true := by
  have hload : ∃ c, ofTexts ["10.1.2.3/16", " 10.0.0.9/8", "192.168.7.7/32"] = .ok c := ⟨_, rfl⟩
  obtain ⟨c, hc⟩ := hload
  refine ⟨c, hc, (isPrivileged_ofTexts_iff hc _).mpr ?_⟩
  exact ⟨.ofOctets 10 200 0 1, by decide, " 10.0.0.9/8", by simp, .ofOctets 10 0 0 9, 8, by rfl,
    by decide⟩

end AccessBroker.Network.Classifier
