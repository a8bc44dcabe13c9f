/-
Compiling and asking with every step checked.

Here a difference below zero, a shift by the width of the word or more, and an index past the end
stop the work: bits are got by shifting, and nodes and children by their places. In a trie
compiled from blocks nothing ever stops (`foldlM_insert?`, `covers?_eq`), since its nodes make
up a tree no deeper than an address is long. `ofBlocks_isTree` says both.
-/
import AccessBroker.Proofs.Network.Block
import AccessBroker.Proofs.Network.Shape

namespace AccessBroker.Network

open Trie (childAt terminalAt walk WellFormed IsTree)

/-! ## Checked steps -/

namespace Checked

/-- A difference that is not below zero. -/
def minus? (a b : Nat) : Option Nat := if b ≤ a then some (a - b) else none

/-- A word shifted to the left by less than its width. -/
def shiftLeft? (x : BitVec 32) (n : Nat) : Option (BitVec 32) :=
  if n < 32 then some (x <<< n) else none

/-- A word shifted to the right by less than its width. -/
def shiftRight? (x : BitVec 32) (n : Nat) : Option (BitVec 32) :=
  if n < 32 then some (x >>> n) else none

/-- The word whose first `n` bits are set; for none of them nothing is shifted. -/
def mask? (n : Nat) : Option (BitVec 32) :=
  if n = 0 then some 0 else (minus? 32 n).bind (shiftLeft? (BitVec.allOnes 32))

/-- Bit `depth` of an address, as the place of a child. -/
def place? (a : AddressV4) (depth : Nat) : Option Nat :=
  ((minus? 31 depth).bind (shiftRight? a.bits)).map fun x => (x &&& 1).toNat

/-- Where the child at a place stands, if it has one. -/
def link? (n : Node) : Nat → Option (Option Nat)
  | 0 => some n.zero
  | 1 => some n.one
  | _ => none

/-- The node with its child at a place set. -/
def withLink? (n : Node) (next : Nat) : Nat → Option Node
  | 0 => some { n with zero := some next }
  | 1 => some { n with one := some next }
  | _ => none

/-- Walks from node `i` along the bits of an address at some depths, and adds the nodes that are
missing. -/
def extend? (a : AddressV4) (nodes : List Node) (i : Nat) : List Nat → Option (List Node × Nat)
  | [] => some (nodes, i)
  | depth :: depths => do
    let place ← place? a depth
    let node ← nodes[i]?
    match ← link? node place with
    | some next => extend? a nodes next depths
    | none => do
      let more := nodes ++ [Node.bare]
      let next ← minus? more.length 1
      let node ← more[i]?
      let linked ← withLink? node next place
      extend? a (more.set i linked) next depths

/-- Adds a block to the nodes of a trie. -/
def insert? (nodes : List Node) (b : Block) : Option (List Node) := do
  let (nodes, last) ← extend? b.network nodes 0 (List.range b.length)
  let node ← nodes[last]?
  some (nodes.set last { node with terminal := true })

/-- Whether the walk from node `i` along the bits of an address at some depths passes a marked
node. -/
def covered? (a : AddressV4) (nodes : List Node) (i : Nat) : List Nat → Option Bool
  | [] => nodes[i]?.map Node.terminal
  | depth :: depths => do
    let node ← nodes[i]?
    if node.terminal then some true
    else
      let place ← place? a depth
      match ← link? node place with
      | some next => covered? a nodes next depths
      | none => some false

/-- Whether an address lies in one of the blocks. -/
def covers? (nodes : List Node) (a : AddressV4) : Option Bool := covered? a nodes 0 (List.range 32)

/-! ## What they come to -/

theorem mask?_eq {n : Nat} (h : n ≤ 32) : mask? n = some (AddressV4.mask n) := by
  rw [mask?]
  split
  · next hzero =>
    subst hzero
    rfl
  · have hshift : 32 - n < 32 := by omega
    rw [minus?, if_pos h, Option.bind_some, shiftLeft?, if_pos hshift, AddressV4.mask]

theorem place?_eq (a : AddressV4) {depth : Nat} (h : depth < 32) :
    place? a depth = some (a.bit depth).toNat := by
  have hshift : 31 - depth < 32 := by omega
  have hle : depth ≤ 31 := by omega
  have hbit : a.bits.getMsbD depth = a.bits.toNat.testBit (31 - depth) := by
    rw [BitVec.getMsbD_eq_getLsbD, decide_eq_true h, Bool.true_and]
    rfl
  rw [place?, minus?, if_pos hle, Option.bind_some, shiftRight?, if_pos hshift, Option.map_some,
    AddressV4.bit, hbit, BitVec.toNat_and, BitVec.toNat_ushiftRight, Nat.toNat_testBit,
    Nat.shiftRight_eq_div_pow]
  exact congrArg some (Nat.and_one_is_mod _)

theorem link?_toNat (n : Node) (bit : Bool) : link? n bit.toNat = some (n.child bit) := by
  cases bit <;> rfl

theorem withLink?_toNat (n : Node) (next : Nat) (bit : Bool) :
    withLink? n next bit.toNat = some (n.withChild bit next) := by
  cases bit <;> rfl

variable {nodes : List Node} {i : Nat}

theorem childAt_of_getElem? {n : Node} (h : nodes[i]? = some n) (bit : Bool) :
    childAt nodes i bit = n.child bit := by
  rw [childAt, h, Option.getD_some]

/-- Nodes are added where they are added without checks. -/
theorem extend?_eq (a : AddressV4) : ∀ {depths : List Nat} {nodes : List Node} {i : Nat},
    (∀ depth ∈ depths, depth < 32) → WellFormed nodes → i < nodes.length →
    extend? a nodes i depths = some (Trie.extend nodes i (depths.map a.bit))
  | [], _, _, _, _, _ => rfl
  | depth :: depths, nodes, i, hdepths, h, hi => by
    obtain ⟨hdepth, hdepths⟩ := List.forall_mem_cons.mp hdepths
    have hnode := List.getElem?_eq_getElem hi
    have hchild := childAt_of_getElem? hnode (a.bit depth)
    rw [List.map_cons, Trie.extend_cons, extend?, place?_eq a hdepth, hnode]
    simp only [Option.bind_eq_bind, Option.bind_some, link?_toNat, ← hchild]
    cases hc : childAt nodes i (a.bit depth) with
    | some next => exact extend?_eq a hdepths h (h.child_mem hc).2
    | none =>
      have hgrow : nodes.modify i (·.withChild (a.bit depth) nodes.length) ++ [Node.bare] =
          (nodes ++ [Node.bare]).set i (nodes[i].withChild (a.bit depth) nodes.length) := by
        rw [List.set_append_left _ _ hi, List.modify_eq_set_getElem?, hnode]
        rfl
      have hlength : (nodes ++ [Node.bare]).length - 1 = nodes.length := by simp
      have hmore : (nodes ++ [Node.bare])[i]? = some nodes[i] := by
        rw [List.getElem?_append_left hi, hnode]
      have hnew : nodes.length < (Trie.grow nodes i (a.bit depth)).length := by
        rw [Trie.length_grow]
        omega
      have hnext : minus? (nodes ++ [Node.bare]).length 1 = some nodes.length := by
        rw [minus?, if_pos (by simp), hlength]
      simp only [hnext, hmore, withLink?_toNat, Option.bind_some, ← hgrow]
      exact extend?_eq a hdepths (h.grow hi (a.bit depth)) hnew

theorem covered?_eq (a : AddressV4) (h : WellFormed nodes) : ∀ {depths : List Nat} {i : Nat},
    (∀ depth ∈ depths, depth < 32) → i < nodes.length →
    covered? a nodes i depths = some (Trie.covered nodes i (depths.map a.bit))
  | [], i, _, hi => by
    rw [covered?, List.map_nil, Trie.covered_nil, terminalAt, List.getElem?_eq_getElem hi]
    rfl
  | depth :: depths, i, hdepths, hi => by
    obtain ⟨hdepth, hdepths⟩ := List.forall_mem_cons.mp hdepths
    have hnode := List.getElem?_eq_getElem hi
    have hchild := childAt_of_getElem? hnode (a.bit depth)
    have hterminal : terminalAt nodes i = nodes[i].terminal := by rw [terminalAt, hnode]; rfl
    rw [List.map_cons, Trie.covered_cons, covered?, hnode, hterminal]
    simp only [Option.bind_eq_bind, Option.bind_some, place?_eq a hdepth, link?_toNat, ← hchild]
    cases nodes[i].terminal with
    | true => rfl
    | false =>
      cases hc : childAt nodes i (a.bit depth) with
      | none => rfl
      | some next => exact covered?_eq a h hdepths (h.child_mem hc).2

theorem insert?_eq {t : Trie} (h : t.Sound) (b : Block) :
    insert? t.nodes b = some (t.insert b.path).nodes := by
  have hdepths : ∀ depth ∈ List.range b.length, depth < 32 := fun depth hdepth =>
    Nat.lt_of_lt_of_le (List.mem_range.mp hdepth) b.length_le
  have hextend : extend? b.network t.nodes 0 (List.range b.length) =
      some (Trie.extend t.nodes 0 b.path) :=
    extend?_eq b.network hdepths h.wellFormed h.root
  obtain ⟨-, hlast, -⟩ := Trie.extend_spec b.path h.wellFormed h.root
  rw [insert?, hextend, Trie.insert_nodes, Trie.mark, List.modify_eq_set_getElem?]
  generalize Trie.extend t.nodes 0 b.path = extended at hlast ⊢
  obtain ⟨nodes, last⟩ := extended
  simp only [Option.bind_eq_bind, Option.bind_some, List.getElem?_eq_getElem hlast]
  rfl

theorem foldlM_insert? : ∀ (blocks : List Block) {c : Classifier}, c.trie.Sound →
    blocks.foldlM insert? c.trie.nodes = some (blocks.foldl Classifier.insert c).trie.nodes
  | [], _, _ => rfl
  | b :: blocks, c, h => by
    have hstep : insert? c.trie.nodes b = some (c.insert b).trie.nodes := insert?_eq h b
    rw [List.foldlM_cons, hstep]
    exact foldlM_insert? blocks (h.insert b.path)

theorem covers?_eq {c : Classifier} (h : c.trie.Sound) (a : AddressV4) :
    covers? c.trie.nodes a = some (c.coversV4 a) :=
  covered?_eq a h.wellFormed (fun _ hdepth => List.mem_range.mp hdepth) h.root

end Checked

/-! ## The compiled network -/

namespace Classifier

open Checked

/-- **The shape of the compiled network.** Whatever blocks it is compiled from, the nodes make up a
tree with the root in front; every node is come to from the root in one way, by at most 32 steps;
at a leaf a block ends, unless it is the bare root alone; and there are no more nodes than the
root and one for each bit of each block. Hence nothing stops where every step is checked: not
while the blocks are inserted one by one, not for any address that is asked for, and not in a mask. -/
theorem ofBlocks_isTree (blocks : List Block) :
    IsTree (ofBlocks blocks).trie.nodes ∧
    (∀ j < (ofBlocks blocks).trie.nodes.length, ∃! p, walk (ofBlocks blocks).trie.nodes 0 p = some j) ∧
    (∀ p j, walk (ofBlocks blocks).trie.nodes 0 p = some j → p.length ≤ 32) ∧
    (∀ j < (ofBlocks blocks).trie.nodes.length,
      (∀ bit, childAt (ofBlocks blocks).trie.nodes j bit = none) →
        terminalAt (ofBlocks blocks).trie.nodes j = true ∨
          j = 0 ∧ (ofBlocks blocks).trie.nodes = [Node.bare]) ∧
    (ofBlocks blocks).trie.nodes.length ≤ 1 + (blocks.map Block.length).sum ∧
    blocks.foldlM insert? [Node.bare] = some (ofBlocks blocks).trie.nodes ∧
    (∀ a, covers? (ofBlocks blocks).trie.nodes a = some ((ofBlocks blocks).coversV4 a)) ∧
    (∀ a depth, depth < 32 → place? a depth = some (a.bit depth).toNat) ∧
    ∀ n ≤ 32, mask? n = some (AddressV4.mask n) := by
  have hholds := holds_ofBlocks blocks
  have hlengths : (blocks.map Block.path).map List.length = blocks.map Block.length := by
    simp [Block.path]
  refine ⟨hholds.isTree, fun j hj => ?_, fun p j hp => ?_, fun j hj hleaf => ?_, ?_,
    foldlM_insert? blocks (c := empty) Trie.Sound.empty, covers?_eq hholds.toSound,
    fun a _ => place?_eq a, fun _ => mask?_eq⟩
  · obtain ⟨p, hp⟩ := hholds.exists_walk hj
    exact ⟨p, hp, fun q hq => hholds.wellFormed.walk_inj hq hp⟩
  · refine hholds.length_le_of_walk (fun s hs => ?_) hp
    obtain ⟨b, -, rfl⟩ := List.mem_map.mp hs
    rw [Block.path, List.length_map, List.length_range]
    exact b.length_le
  · cases blocks with
    | nil => exact .inr ⟨Nat.lt_one_iff.mp hj, rfl⟩
    | cons b blocks => exact .inl (hholds.terminalAt_of_leaf (List.cons_ne_nil _ _) hj hleaf)
  · rw [← hlengths]
    exact hholds.length_le

/-- Two blocks, the first inside the second. -/
def nestedBlocks : List Block :=
  [⟨.ofOctets 10 6 0 0, 17, by decide, by decide⟩, ⟨.ofOctets 10 0 0 0, 8, by decide, by decide⟩]

/-- The second block adds no node to those of the first, which ends at the only leaf. -/
theorem ofBlocks_isTree_nested : 17 < (ofBlocks nestedBlocks).trie.nodes.length ∧
    (ofBlocks nestedBlocks).trie.nodes.length ≤ 26 ∧
    (∀ bit, childAt (ofBlocks nestedBlocks).trie.nodes 17 bit = none) ∧
    terminalAt (ofBlocks nestedBlocks).trie.nodes 17 = true ∧
    (∃! p, walk (ofBlocks nestedBlocks).trie.nodes 0 p = some 17) ∧
    place? (.ofOctets 10 6 0 0) 31 = some 0 ∧ mask? 32 = some (AddressV4.mask 32) := by
  obtain ⟨-, hway, -, hend, hcount, -, -, hplace, hmask⟩ := ofBlocks_isTree nestedBlocks
  have hlength : 17 < (ofBlocks nestedBlocks).trie.nodes.length := by decide +kernel
  have hleaf : ∀ bit, childAt (ofBlocks nestedBlocks).trie.nodes 17 bit = none := by decide +kernel
  have hterminal := (hend 17 hlength hleaf).resolve_right fun h => absurd h.1 (by decide)
  exact ⟨hlength, hcount, hleaf, hterminal, hway 17 hlength,
    hplace (.ofOctets 10 6 0 0) 31 (by decide), hmask 32 (by decide)⟩

end Classifier

end AccessBroker.Network
