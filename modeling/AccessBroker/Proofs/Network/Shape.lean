/-
The shape of a trie.

What was inserted decides which walks from the root lead anywhere: those along the fronts of
inserted strings, and no others (`Holds.exists_walk_iff`, which every insertion keeps,
`Holds.insert`). The shape follows from that: the nodes make up a tree (`Holds.isTree`), no walk
is longer than the longest string, and at every leaf an inserted string ends
(`Holds.terminalAt_of_leaf`).
-/
import AccessBroker.Network.Classifier
import AccessBroker.Proofs.Network.Trie
import Mathlib.Algebra.GroupWithZero.Nat

namespace AccessBroker.Network.Trie

variable {nodes : List Node} {i : Nat} {bit : Bool}

/-! ## Walks in a vector that grows -/

theorem childAt_of_length_le (h : nodes.length ≤ i) (bit : Bool) : childAt nodes i bit = none := by
  rw [childAt, List.getElem?_eq_none h]
  cases bit <;> rfl

/-- A walk goes on where all links stay. -/
theorem walk_mono {nodes' : List Node}
    (h : ∀ {j b k}, childAt nodes j b = some k → childAt nodes' j b = some k) :
    ∀ {p : List Bool} {i j : Nat}, walk nodes i p = some j → walk nodes' i p = some j
  | [], _, _, hw => hw
  | bit :: p, i, j, hw => by
    simp only [walk, Option.bind_eq_some_iff] at hw ⊢
    obtain ⟨next, hnext, hw⟩ := hw
    exact ⟨next, h hnext, walk_mono h hw⟩

theorem walk_mark (nodes : List Node) (last : Nat) : ∀ (p : List Bool) (i : Nat),
    walk (mark nodes last) i p = walk nodes i p
  | [], _ => rfl
  | bit :: p, i => by
    simp only [walk, childAt_mark, walk_mark nodes last p]

/-- The new link takes the place of no other. -/
theorem childAt_grow_of_some (hi : i < nodes.length) (hnone : childAt nodes i bit = none) {j : Nat}
    {b : Bool} {k : Nat} (hk : childAt nodes j b = some k) :
    childAt (grow nodes i bit) j b = some k := by
  rw [childAt_grow hi, if_neg, hk]
  rintro ⟨rfl, rfl⟩
  rw [hnone] at hk
  cases hk

/-- A walk in a vector with one node more is one of before, or its last step leads to that node. -/
theorem walk_grow (h : WellFormed nodes) (hi : i < nodes.length) : ∀ {p : List Bool} {k j : Nat},
    k < nodes.length → walk (grow nodes i bit) k p = some j →
      walk nodes k p = some j ∨ ∃ q, p = q ++ [bit] ∧ walk nodes k q = some i
  | [], _, _, _, hw => .inl hw
  | b :: p, k, j, hk, hw => by
    simp only [walk, Option.bind_eq_some_iff] at hw
    obtain ⟨next, hnext, hw⟩ := hw
    rw [childAt_grow hi] at hnext
    split at hnext
    · next hlink =>
      obtain ⟨rfl, rfl⟩ := hlink
      obtain rfl := Option.some.inj hnext
      cases p with
      | nil => exact .inr ⟨[], rfl, rfl⟩
      | cons b' p =>
        -- The new node is bare, so no walk goes on from it.
        have hne : ¬(nodes.length = k ∧ b' = b) := fun heq => absurd heq.1 (by omega)
        simp only [walk, childAt_grow hi, if_neg hne, childAt_of_length_le (Nat.le_refl _),
          Option.bind_none, reduceCtorEq] at hw
    · rcases walk_grow h hi (h.child_mem hnext).2 hw with hbefore | ⟨q, rfl, hq⟩
      · exact .inl (by simp only [walk, hnext, Option.bind_some, hbefore])
      · exact .inr ⟨b :: q, rfl, by simp only [walk, hnext, Option.bind_some, hq]⟩

/-! ## Extending -/

/-- A walk in an extended vector is one of before, or goes along the bits of the extension. -/
theorem walk_of_extend : ∀ {bits : List Bool} {nodes : List Node} {i : Nat} {front : List Bool},
    WellFormed nodes → i < nodes.length → walk nodes 0 front = some i →
    ∀ {p : List Bool} {j : Nat}, walk (extend nodes i bits).1 0 p = some j →
      walk nodes 0 p = some j ∨ p <+: front ++ bits
  | [], _, _, _, _, _, _, _, _, hw => .inl hw
  | bit :: bits, nodes, i, front, h, hi, hfront, p, j, hw => by
    rw [extend_cons] at hw
    rw [List.append_cons]
    cases hc : childAt nodes i bit with
    | some next =>
      rw [hc] at hw
      have hlonger := (walk_concat nodes front bit 0 next).mpr ⟨i, hfront, hc⟩
      exact walk_of_extend h (h.child_mem hc).2 hlonger hw
    | none =>
      rw [hc] at hw
      have hlength := length_grow nodes i bit
      have hkept : walk (grow nodes i bit) 0 front = some i :=
        walk_mono (childAt_grow_of_some hi hc) hfront
      have hlonger : walk (grow nodes i bit) 0 (front ++ [bit]) = some nodes.length :=
        (walk_concat ..).mpr ⟨i, hkept, by simp [childAt_grow hi]⟩
      rcases walk_of_extend (h.grow hi bit) (by omega) hlonger hw with hw | hprefix
      · rcases walk_grow h hi (by omega) hw with hw | ⟨q, rfl, hq⟩
        · exact .inl hw
        · rw [h.walk_inj hq hfront]
          exact .inr (List.prefix_append _ _)
      · exact .inr hprefix

theorem terminalAt_extend (bits : List Bool) (h : WellFormed nodes) (hi : i < nodes.length) (j : Nat) :
    terminalAt (extend nodes i bits).1 j = terminalAt nodes j :=
  covered_extend bits h hi j []

/-- An extension adds a node for each bit at most. -/
theorem length_extend_le : ∀ (bits : List Bool) (nodes : List Node) (i : Nat),
    (extend nodes i bits).1.length ≤ nodes.length + bits.length
  | [], _, _ => Nat.le_refl _
  | bit :: bits, nodes, i => by
    rw [extend_cons, List.length_cons]
    cases childAt nodes i bit with
    | some next =>
      have ih := length_extend_le bits nodes next
      show (extend nodes next bits).1.length ≤ _
      omega
    | none =>
      have ih := length_extend_le bits (grow nodes i bit) nodes.length
      rw [length_grow] at ih
      show (extend (grow nodes i bit) nodes.length bits).1.length ≤ _
      omega

/-- Every node but the root is a child. -/
def Linked (nodes : List Node) : Prop :=
  ∀ j, 0 < j → j < nodes.length → ∃ i bit, childAt nodes i bit = some j

theorem Linked.grow (h : Linked nodes) (hi : i < nodes.length) (hnone : childAt nodes i bit = none) :
    Linked (grow nodes i bit) := by
  intro j hpos hj
  rw [length_grow] at hj
  by_cases hnew : j = nodes.length
  · exact ⟨i, bit, by rw [childAt_grow hi, if_pos ⟨rfl, rfl⟩, hnew]⟩
  · obtain ⟨k, b, hk⟩ := h j hpos (by omega)
    exact ⟨k, b, childAt_grow_of_some hi hnone hk⟩

theorem Linked.extend : ∀ {bits : List Bool} {nodes : List Node} {i : Nat}, Linked nodes →
    WellFormed nodes → i < nodes.length → Linked (extend nodes i bits).1
  | [], _, _, h, _, _ => h
  | bit :: bits, nodes, i, h, hwf, hi => by
    rw [extend_cons]
    cases hc : childAt nodes i bit with
    | some next => exact h.extend hwf (hwf.child_mem hc).2
    | none => exact (h.grow hi hc).extend (hwf.grow hi bit) (by rw [length_grow]; omega)

theorem Linked.mark (h : Linked nodes) (last : Nat) : Linked (mark nodes last) := by
  intro j hpos hj
  rw [Trie.mark, List.length_modify] at hj
  obtain ⟨i, bit, hlink⟩ := h j hpos hj
  exact ⟨i, bit, by rw [childAt_mark, hlink]⟩

/-! ## What a trie holds -/

/-- The trie into which the given strings were inserted, and nothing else. -/
structure Holds (t : Trie) (strings : List (List Bool)) : Prop extends Sound t where
  linked : Linked t.nodes
  exists_walk_iff : ∀ p, (∃ j, walk t.nodes 0 p = some j) ↔ p = [] ∨ ∃ s ∈ strings, p <+: s
  exists_end : ∀ s ∈ strings, ∃ j, walk t.nodes 0 s = some j ∧ terminalAt t.nodes j = true
  length_le : t.nodes.length ≤ 1 + (strings.map List.length).sum

theorem Holds.empty : Holds empty [] where
  toSound := .empty
  linked j hpos hj := absurd hj (Nat.not_lt.mpr hpos)
  exists_walk_iff p := by
    cases p with
    | nil => simp [walk]
    | cons bit p => simp [walk, childAt_empty]
  exists_end s hs := by cases hs
  length_le := Nat.le_refl _

variable {t : Trie} {strings : List (List Bool)}

theorem Holds.insert (h : t.Holds strings) (bits : List Bool) :
    (t.insert bits).Holds (strings ++ [bits]) := by
  have hwf := h.wellFormed
  obtain ⟨-, hlast, hwalk⟩ := extend_spec bits hwf h.root
  have hkept : ∀ {p j}, walk t.nodes 0 p = some j →
      walk (extend t.nodes 0 bits).1 0 p = some j :=
    fun hw => walk_mono (fun hk => childAt_extend bits hwf h.root hk) hw
  refine ⟨h.toSound.insert bits, ?_, fun p => ?_, fun s hs => ?_, ?_⟩
  · exact (h.linked.extend hwf h.root).mark _
  · have hroot : walk t.nodes 0 [] = some 0 := rfl
    simp only [insert_nodes, walk_mark, List.mem_append, List.mem_singleton]
    constructor
    · rintro ⟨j, hw⟩
      rcases walk_of_extend hwf h.root hroot hw with hw | hprefix
      · rcases (h.exists_walk_iff p).mp ⟨j, hw⟩ with hnil | ⟨s, hs, hprefix⟩
        · exact .inl hnil
        · exact .inr ⟨s, .inl hs, hprefix⟩
      · exact .inr ⟨bits, .inr rfl, hprefix⟩
    · rintro (hnil | ⟨s, hs | rfl, hprefix⟩)
      · obtain ⟨j, hw⟩ := (h.exists_walk_iff p).mpr (.inl hnil)
        exact ⟨j, hkept hw⟩
      · obtain ⟨j, hw⟩ := (h.exists_walk_iff p).mpr (.inr ⟨s, hs, hprefix⟩)
        exact ⟨j, hkept hw⟩
      · obtain ⟨rest, rfl⟩ := hprefix
        rw [walk_append, Option.bind_eq_some_iff] at hwalk
        obtain ⟨j, hw, -⟩ := hwalk
        exact ⟨j, hw⟩
  · simp only [insert_nodes, walk_mark, terminalAt_mark hlast, terminalAt_extend bits hwf h.root]
    rcases List.mem_append.mp hs with hs | hs
    · obtain ⟨j, hw, hend⟩ := h.exists_end s hs
      exact ⟨j, hkept hw, by rw [hend, Bool.true_or]⟩
    · obtain rfl := List.mem_singleton.mp hs
      exact ⟨_, hwalk, by rw [decide_eq_true rfl, Bool.or_true]⟩
  · have hadded := length_extend_le bits t.nodes 0
    have hbefore := h.length_le
    simp only [insert_nodes, mark, List.length_modify, List.map_append, List.sum_append,
      List.map_singleton, List.sum_singleton]
    omega

/-! ## The shape -/

/-- The nodes make up a tree: links lead forward inside the vector, and every node but the root is
the child of exactly one node, on one side. -/
structure IsTree (nodes : List Node) : Prop where
  forward : ∀ i bit j, childAt nodes i bit = some j → i < j ∧ j < nodes.length
  existsUnique_link : ∀ j, 0 < j → j < nodes.length →
    ∃! link : Nat × Bool, childAt nodes link.1 link.2 = some j

theorem Holds.isTree (h : t.Holds strings) : IsTree t.nodes where
  forward _ _ _ hlink := h.wellFormed.child_mem hlink
  existsUnique_link j hpos hj := by
    obtain ⟨i, bit, hlink⟩ := h.linked j hpos hj
    refine ⟨(i, bit), hlink, fun other hother => ?_⟩
    obtain ⟨hi, hbit⟩ := h.wellFormed.parent_unique hother hlink
    exact Prod.ext hi hbit

/-- Every node is come to from the root. -/
theorem Holds.exists_walk (h : t.Holds strings) {j : Nat} (hj : j < t.nodes.length) :
    ∃ p, walk t.nodes 0 p = some j := by
  -- Links lead forward, so the parent is come to first.
  induction j using Nat.strongRecOn with
  | ind j ih =>
    rcases Nat.eq_zero_or_pos j with rfl | hpos
    · exact ⟨[], rfl⟩
    · obtain ⟨i, bit, hlink⟩ := h.linked j hpos hj
      have hi := (h.wellFormed.child_mem hlink).1
      obtain ⟨p, hp⟩ := ih i hi (by omega)
      exact ⟨p ++ [bit], (walk_concat ..).mpr ⟨i, hp, hlink⟩⟩

theorem Holds.length_le_of_walk (h : t.Holds strings) {n : Nat} (hn : ∀ s ∈ strings, s.length ≤ n)
    {p : List Bool} {j : Nat} (hp : walk t.nodes 0 p = some j) : p.length ≤ n := by
  rcases (h.exists_walk_iff p).mp ⟨j, hp⟩ with rfl | ⟨s, hs, hprefix⟩
  · exact Nat.zero_le n
  · exact Nat.le_trans hprefix.length_le (hn s hs)

/-- At a leaf an inserted string ends, unless nothing was inserted. -/
theorem Holds.terminalAt_of_leaf (h : t.Holds strings) (hne : strings ≠ []) {j : Nat}
    (hj : j < t.nodes.length) (hleaf : ∀ bit, childAt t.nodes j bit = none) :
    terminalAt t.nodes j = true := by
  obtain ⟨p, hp⟩ := h.exists_walk hj
  obtain ⟨s, hs, rest, rfl⟩ : ∃ s ∈ strings, p <+: s := by
    rcases (h.exists_walk_iff p).mp ⟨j, hp⟩ with rfl | hprefix
    · obtain ⟨s, hs⟩ := List.exists_mem_of_ne_nil strings hne
      exact ⟨s, hs, List.nil_prefix⟩
    · exact hprefix
  obtain ⟨k, hwalk, hend⟩ := h.exists_end _ hs
  rw [walk_append, hp, Option.bind_some] at hwalk
  -- The string goes on behind the leaf only if a link does.
  cases rest with
  | nil => rwa [Option.some.inj hwalk]
  | cons bit rest =>
    rw [walk, hleaf bit] at hwalk
    cases hwalk

end Trie

namespace Classifier

theorem holds_foldl_insert : ∀ (blocks : List Block) {c : Classifier} {strings : List (List Bool)},
    c.trie.Holds strings → (blocks.foldl insert c).trie.Holds (strings ++ blocks.map Block.path)
  | [], _, _, h => by simpa using h
  | b :: blocks, c, strings, h => by
    have hstep : (c.insert b).trie.Holds (strings ++ [b.path]) := h.insert b.path
    rw [List.foldl_cons, List.map_cons, List.append_cons]
    exact holds_foldl_insert blocks hstep

theorem holds_ofBlocks (blocks : List Block) :
    (ofBlocks blocks).trie.Holds (blocks.map Block.path) :=
  holds_foldl_insert blocks (c := empty) Trie.Holds.empty

end Classifier

end AccessBroker.Network
