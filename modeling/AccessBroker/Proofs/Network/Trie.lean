/-
What a trie covers.

`walk` follows child links and says where a run of bits ends. In a well-formed
vector of nodes every link points forward, inside the vector, and no node is
the child of two (`WellFormed`), so two walks that end at one node went along
the same bits (`WellFormed.walk_inj`).

* `covered_extend`: the nodes that an insertion adds cover nothing by
  themselves.
* `covers_insert_iff`: after an insertion the trie covers what it covered, and
  what begins with the inserted bits, and nothing else.
-/
import AccessBroker.Network.Trie
import Mathlib.Data.List.Induction
import Mathlib.Tactic.Tauto

namespace AccessBroker.Network

namespace Trie

/-- Where the child of node `i` for a bit stands. -/
def childAt (nodes : List Node) (i : Nat) (bit : Bool) : Option Nat :=
  (nodes[i]?.getD Node.bare).child bit

/-- Whether an inserted string ends at node `i`. -/
def terminalAt (nodes : List Node) (i : Nat) : Bool := (nodes[i]?.getD Node.bare).terminal

/-- The nodes with a bare one added as the child of node `i` for a bit. -/
def grow (nodes : List Node) (i : Nat) (bit : Bool) : List Node :=
  nodes.modify i (·.withChild bit nodes.length) ++ [Node.bare]

/-- The nodes with node `i` marked as an end. -/
def mark (nodes : List Node) (i : Nat) : List Node :=
  nodes.modify i fun n => { n with terminal := true }

/-- Where the walk from node `i` along some bits ends, if it does not fall off. -/
def walk (nodes : List Node) (i : Nat) : List Bool → Option Nat
  | [] => some i
  | bit :: bits => (childAt nodes i bit).bind fun next => walk nodes next bits

/-- Links point forward inside the vector, and no node is the child of two. -/
structure WellFormed (nodes : List Node) : Prop where
  child_mem : ∀ {i bit j}, childAt nodes i bit = some j → i < j ∧ j < nodes.length
  parent_unique : ∀ {i i' bit bit' j}, childAt nodes i bit = some j →
    childAt nodes i' bit' = some j → i = i' ∧ bit = bit'

theorem extend_cons (nodes : List Node) (i : Nat) (bit : Bool) (bits : List Bool) :
    extend nodes i (bit :: bits) =
      match childAt nodes i bit with
      | some next => extend nodes next bits
      | none => extend (grow nodes i bit) nodes.length bits := rfl

theorem covered_nil (nodes : List Node) (i : Nat) : covered nodes i [] = terminalAt nodes i := rfl

theorem covered_cons (nodes : List Node) (i : Nat) (bit : Bool) (bits : List Bool) :
    covered nodes i (bit :: bits) =
      (terminalAt nodes i || ((childAt nodes i bit).elim false (covered nodes · bits))) := by
  show (if terminalAt nodes i = true then true
    else match childAt nodes i bit with
      | some next => covered nodes next bits
      | none => false) = _
  cases terminalAt nodes i <;> cases childAt nodes i bit <;> simp

/-- A bare node has neither mark nor links, and there is nothing past the end. -/
theorem covered_of_bare {nodes : List Node} {i : Nat} (h : nodes[i]?.getD Node.bare = Node.bare)
    (q : List Bool) : covered nodes i q = false := by
  have hterm : terminalAt nodes i = false := by rw [terminalAt, h]; rfl
  have hchild : ∀ bit, childAt nodes i bit = none := by
    intro bit
    rw [childAt, h]
    cases bit <;> rfl
  cases q with
  | nil => exact hterm
  | cons bit q => simp [covered_cons, hterm, hchild]

theorem length_grow (nodes : List Node) (i : Nat) (bit : Bool) :
    (grow nodes i bit).length = nodes.length + 1 := by
  simp [grow]

/-! ## Adding a node -/

section Grow

variable {nodes : List Node} {i : Nat} (hi : i < nodes.length)

include hi

theorem childAt_grow (bit : Bool) (j : Nat) (b : Bool) :
    childAt (grow nodes i bit) j b =
      if j = i ∧ b = bit then some nodes.length else childAt nodes j b := by
  unfold childAt grow
  rcases Nat.lt_trichotomy j nodes.length with hj | hj | hj
  · rw [List.getElem?_append_left (by simpa using hj)]
    by_cases hij : j = i
    · subst hij
      simp only [List.getElem?_modify_eq, List.getElem?_eq_getElem hj, Option.getD_some, true_and]
      cases bit <;> cases b <;> simp [Node.withChild, Node.child]
    · rw [List.getElem?_modify_ne _ _ (Ne.symm hij)]
      simp [hij]
  · subst hj
    have hne : ¬ nodes.length = i := by omega
    simp [hne, Node.bare, Node.child]
  · have hne : ¬ j = i := by omega
    rw [List.getElem?_eq_none (by simp; omega), List.getElem?_eq_none (by omega)]
    simp [hne]

theorem terminalAt_grow (bit : Bool) (j : Nat) :
    terminalAt (grow nodes i bit) j = terminalAt nodes j := by
  unfold terminalAt grow
  rcases Nat.lt_trichotomy j nodes.length with hj | hj | hj
  · rw [List.getElem?_append_left (by simpa using hj)]
    by_cases hij : j = i
    · subst hij
      simp only [List.getElem?_modify_eq, List.getElem?_eq_getElem hj, Option.getD_some]
      cases bit <;> rfl
    · rw [List.getElem?_modify_ne _ _ (Ne.symm hij)]
  · subst hj; simp [Node.bare]
  · rw [List.getElem?_eq_none (by simp; omega), List.getElem?_eq_none (by omega)]

theorem WellFormed.grow (h : WellFormed nodes) (bit : Bool) : WellFormed (grow nodes i bit) where
  child_mem {j b k} hk := by
    rw [childAt_grow hi] at hk
    rw [length_grow]
    split at hk
    · next hjb =>
      obtain ⟨rfl, -⟩ := hjb
      simp only [Option.some.injEq] at hk
      omega
    · have := h.child_mem hk
      omega
  parent_unique {j j' b b' k} hk hk' := by
    rw [childAt_grow hi] at hk hk'
    -- The new node is nobody's child before, so a clash with an old link is out of bounds.
    split at hk <;> split at hk'
    · next h1 h2 => exact ⟨h1.1.trans h2.1.symm, h1.2.trans h2.2.symm⟩
    · simp only [Option.some.injEq] at hk
      have := (h.child_mem hk').2
      omega
    · simp only [Option.some.injEq] at hk'
      have := (h.child_mem hk).2
      omega
    · exact h.parent_unique hk hk'

theorem covered_grow {bit : Bool} (hnone : childAt nodes i bit = none) (bits : List Bool) (j : Nat) :
    covered (grow nodes i bit) j bits = covered nodes j bits := by
  induction bits generalizing j with
  | nil => exact terminalAt_grow hi bit j
  | cons b bits ih =>
    rw [covered_cons, covered_cons, terminalAt_grow hi, childAt_grow hi]
    by_cases hj : j = i ∧ b = bit
    · -- The new node is bare: a walk that comes to it meets no mark.
      obtain ⟨rfl, rfl⟩ := hj
      have hbare : covered nodes nodes.length bits = false := covered_of_bare (by simp) bits
      simp [hnone, ih, hbare]
    · rw [if_neg hj]
      cases childAt nodes j b with
      | none => rfl
      | some next => simp [ih next]

end Grow

/-! ## Walks -/

theorem walk_append (nodes : List Node) : ∀ (p q : List Bool) (i : Nat),
    walk nodes i (p ++ q) = (walk nodes i p).bind fun j => walk nodes j q
  | [], _, _ => rfl
  | bit :: p, q, i => by
    simp only [List.cons_append, walk]
    cases childAt nodes i bit with
    | none => rfl
    | some next => exact walk_append nodes p q next

theorem walk_concat (nodes : List Node) (p : List Bool) (bit : Bool) (i j : Nat) :
    walk nodes i (p ++ [bit]) = some j ↔
      ∃ k, walk nodes i p = some k ∧ childAt nodes k bit = some j := by
  simp [walk_append, walk, Option.bind_eq_some_iff]

theorem WellFormed.le_of_walk {nodes : List Node} (h : WellFormed nodes) :
    ∀ {p : List Bool} {i j : Nat}, walk nodes i p = some j → i ≤ j
  | [], i, j, hw => by simp only [walk, Option.some.injEq] at hw; omega
  | bit :: p, i, j, hw => by
    simp only [walk, Option.bind_eq_some_iff] at hw
    obtain ⟨k, hk, hw⟩ := hw
    have := (h.child_mem hk).1
    have := h.le_of_walk hw
    omega

/-- **One way to a node.** Two walks from one node to one node go along the same bits. -/
theorem WellFormed.walk_inj {nodes : List Node} (h : WellFormed nodes) {i : Nat} :
    ∀ {p q : List Bool} {j : Nat}, walk nodes i p = some j → walk nodes i q = some j → p = q := by
  intro p
  -- The last link of either walk leads to `j`, so they share it; the induction takes it off.
  induction p using List.reverseRecOn with
  | nil =>
    intro q j hp hq
    simp only [walk, Option.some.injEq] at hp
    subst hp
    rcases List.eq_nil_or_concat q with rfl | ⟨q', bit, rfl⟩
    · rfl
    · rw [List.concat_eq_append] at hq
      obtain ⟨k, hk, hlink⟩ := (walk_concat ..).mp hq
      have := h.le_of_walk hk
      have := (h.child_mem hlink).1
      omega
  | append_singleton p bit ih =>
    intro q j hp hq
    obtain ⟨k, hk, hlink⟩ := (walk_concat ..).mp hp
    rcases List.eq_nil_or_concat q with rfl | ⟨q', bit', rfl⟩
    · simp only [walk, Option.some.injEq] at hq
      have := h.le_of_walk hk
      have := (h.child_mem hlink).1
      omega
    · rw [List.concat_eq_append] at hq ⊢
      obtain ⟨k', hk', hlink'⟩ := (walk_concat ..).mp hq
      obtain ⟨rfl, rfl⟩ := h.parent_unique hlink hlink'
      rw [ih hk hk']

/-! ## Extending and marking -/

theorem covered_extend : ∀ (bits : List Bool) {nodes : List Node} {i : Nat}, WellFormed nodes →
    i < nodes.length → ∀ j q, covered (extend nodes i bits).1 j q = covered nodes j q
  | [], _, _, _, _, _, _ => rfl
  | bit :: bits, nodes, i, h, hi, j, q => by
    rw [extend_cons]
    cases hc : childAt nodes i bit with
    | some next => exact covered_extend bits h (h.child_mem hc).2 j q
    | none =>
      rw [covered_extend bits (h.grow hi bit) (by rw [length_grow]; omega)]
      exact covered_grow hi hc q j

/-- Old links stay where they are. -/
theorem childAt_extend : ∀ (bits : List Bool) {nodes : List Node} {i : Nat}, WellFormed nodes →
    i < nodes.length → ∀ {j b k}, childAt nodes j b = some k →
      childAt (extend nodes i bits).1 j b = some k
  | [], _, _, _, _, _, _, _, hk => hk
  | bit :: bits, nodes, i, h, hi, j, b, k, hk => by
    rw [extend_cons]
    cases hc : childAt nodes i bit with
    | some next => exact childAt_extend bits h (h.child_mem hc).2 hk
    | none =>
      refine childAt_extend bits (h.grow hi bit) (by rw [length_grow]; omega) ?_
      rw [childAt_grow hi, if_neg]
      · exact hk
      · rintro ⟨rfl, rfl⟩
        simp [hc] at hk

/-- What an extension leaves: nodes in order, and a walk along the bits to the last node. -/
theorem extend_spec : ∀ (bits : List Bool) {nodes : List Node} {i : Nat}, WellFormed nodes →
    i < nodes.length →
    WellFormed (extend nodes i bits).1 ∧ (extend nodes i bits).2 < (extend nodes i bits).1.length ∧
      walk (extend nodes i bits).1 i bits = some (extend nodes i bits).2
  | [], _, _, h, hi => ⟨h, hi, rfl⟩
  | bit :: bits, nodes, i, h, hi => by
    rw [extend_cons]
    cases hc : childAt nodes i bit with
    | some next =>
      have hnext := (h.child_mem hc).2
      obtain ⟨hwf, hlast, hwalk⟩ := extend_spec bits h hnext
      refine ⟨hwf, hlast, ?_⟩
      simp only [walk, childAt_extend bits h hnext hc, Option.bind_some]
      exact hwalk
    | none =>
      have hgrow := h.grow hi bit
      have hnew : nodes.length < (grow nodes i bit).length := by rw [length_grow]; omega
      obtain ⟨hwf, hlast, hwalk⟩ := extend_spec bits hgrow hnew
      refine ⟨hwf, hlast, ?_⟩
      have hlink : childAt (grow nodes i bit) i bit = some nodes.length := by
        simp [childAt_grow hi]
      simp only [walk, childAt_extend bits hgrow hnew hlink, Option.bind_some]
      exact hwalk

theorem childAt_mark (nodes : List Node) (last i : Nat) (bit : Bool) :
    childAt (mark nodes last) i bit = childAt nodes i bit := by
  unfold childAt mark
  rw [List.getElem?_modify]
  cases nodes[i]? with
  | none => rfl
  | some n => by_cases h : last = i <;> cases bit <;> simp [h, Node.child]

theorem terminalAt_mark {nodes : List Node} {last : Nat} (hlast : last < nodes.length) (i : Nat) :
    terminalAt (mark nodes last) i = (terminalAt nodes i || decide (i = last)) := by
  unfold terminalAt mark
  rw [List.getElem?_modify]
  by_cases h : last = i
  · subst h
    simp [List.getElem?_eq_getElem hlast]
  · have h' : ¬ i = last := fun e => h e.symm
    cases nodes[i]? <;> simp [h, h']

theorem WellFormed.mark {nodes : List Node} (h : WellFormed nodes) (last : Nat) :
    WellFormed (mark nodes last) where
  child_mem hk := by
    rw [childAt_mark] at hk
    simpa [Trie.mark] using h.child_mem hk
  parent_unique hk hk' := by
    rw [childAt_mark] at hk hk'
    exact h.parent_unique hk hk'

/-- With one more mark, what is covered begins with a way to the mark or was covered before. -/
theorem covered_mark {nodes : List Node} {last : Nat} (hlast : last < nodes.length) :
    ∀ (bits : List Bool) (i : Nat), covered (mark nodes last) i bits = true ↔
      covered nodes i bits = true ∨ ∃ p, p <+: bits ∧ walk nodes i p = some last
  | [], i => by
    simp [covered_nil, terminalAt_mark hlast, List.prefix_nil, walk]
  | bit :: bits, i => by
    rw [covered_cons, covered_cons, terminalAt_mark hlast, childAt_mark]
    have hways : (∃ p, p <+: bit :: bits ∧ walk nodes i p = some last) ↔
        i = last ∨ ∃ next, childAt nodes i bit = some next ∧
          ∃ p, p <+: bits ∧ walk nodes next p = some last := by
      constructor
      · rintro ⟨p, hp, hw⟩
        cases p with
        | nil => exact .inl (by simpa [walk] using hw)
        | cons b p =>
          obtain ⟨rfl, htail⟩ := List.cons_prefix_cons.mp hp
          simp only [walk, Option.bind_eq_some_iff] at hw
          obtain ⟨next, hnext, hw⟩ := hw
          exact .inr ⟨next, hnext, p, htail, hw⟩
      · rintro (rfl | ⟨next, hnext, p, hp, hw⟩)
        · exact ⟨[], List.nil_prefix, rfl⟩
        · exact ⟨bit :: p, List.cons_prefix_cons.mpr ⟨rfl, hp⟩, by simpa [walk, hnext] using hw⟩
    rw [hways]
    cases childAt nodes i bit with
    | none => simp
    | some next =>
      simp only [Bool.or_eq_true, decide_eq_true_eq, Option.elim_some, covered_mark hlast bits next,
        Option.some.injEq, exists_eq_left']
      tauto

/-! ## Tries -/

/-- A trie with a root, and its nodes in order. -/
structure Sound (t : Trie) : Prop where
  root : 0 < t.nodes.length
  wellFormed : WellFormed t.nodes

theorem childAt_empty (i : Nat) (bit : Bool) : childAt empty.nodes i bit = none := by
  unfold childAt
  cases i <;> cases bit <;> rfl

theorem Sound.empty : Sound empty where
  root := by decide
  wellFormed := ⟨by simp [childAt_empty], by simp [childAt_empty]⟩

theorem insert_nodes (t : Trie) (bits : List Bool) :
    (t.insert bits).nodes = mark (extend t.nodes 0 bits).1 (extend t.nodes 0 bits).2 := rfl

theorem Sound.insert {t : Trie} (h : t.Sound) (bits : List Bool) : (t.insert bits).Sound := by
  obtain ⟨hwf, hlast, -⟩ := extend_spec bits h.wellFormed h.root
  refine ⟨?_, ?_⟩ <;> rw [insert_nodes]
  · simp only [mark, List.length_modify]
    omega
  · exact hwf.mark _

theorem covers_empty (q : List Bool) : empty.covers q = false := covered_of_bare rfl q

/-- **What an insertion adds.** The strings that begin with the inserted one, and no other. -/
theorem covers_insert_iff {t : Trie} (h : t.Sound) (bits q : List Bool) :
    (t.insert bits).covers q = true ↔ t.covers q = true ∨ bits <+: q := by
  obtain ⟨hwf, hlast, hwalk⟩ := extend_spec bits h.wellFormed h.root
  unfold covers
  rw [insert_nodes, covered_mark hlast, covered_extend bits h.wellFormed h.root]
  refine or_congr_right ⟨?_, fun hp => ⟨bits, hp, hwalk⟩⟩
  rintro ⟨p, hp, hw⟩
  rwa [hwf.walk_inj hwalk hw]

end Trie

end AccessBroker.Network
