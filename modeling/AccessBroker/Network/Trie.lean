/-
A binary trie of bit strings.

The nodes stand in one vector; node 0 is the root, and a child is named by its
place in the vector. Inserting a string walks along its bits, adds the nodes
that are missing at the end of the vector, and marks the last node. A string of
bits is covered when the walk along it passes a marked node.
-/

namespace AccessBroker.Network

/-- A node: where its two children stand, and whether an inserted string ends here. -/
structure Node where
  zero : Option Nat
  one : Option Nat
  terminal : Bool
  deriving DecidableEq, Inhabited

namespace Node

/-- A node without children at which nothing ends. -/
def bare : Node := ⟨none, none, false⟩

/-- Where the child for a bit stands. -/
def child (n : Node) : Bool → Option Nat
  | false => n.zero
  | true => n.one

/-- The node with its child for a bit set. -/
def withChild (n : Node) (bit : Bool) (i : Nat) : Node :=
  if bit then { n with one := some i } else { n with zero := some i }

end Node

/-- A binary trie as a vector of nodes with the root in front. -/
structure Trie where
  nodes : List Node
  deriving DecidableEq

namespace Trie

/-- The trie in which nothing has been inserted. -/
def empty : Trie := ⟨[Node.bare]⟩

/-- Walks from node `i` along `bits`, adds the nodes that are missing, and gives the last node. -/
def extend (nodes : List Node) (i : Nat) : List Bool → List Node × Nat
  | [] => (nodes, i)
  | bit :: bits =>
    match (nodes[i]?.getD Node.bare).child bit with
    | some next => extend nodes next bits
    | none =>
      extend (nodes.modify i (·.withChild bit nodes.length) ++ [Node.bare]) nodes.length bits

/-- Marks the end of a string of bits. -/
def insert (t : Trie) (bits : List Bool) : Trie :=
  let (nodes, last) := extend t.nodes 0 bits
  ⟨nodes.modify last fun n => { n with terminal := true }⟩

/-- Whether the walk from node `i` along `bits` passes a marked node. -/
def covered (nodes : List Node) (i : Nat) : List Bool → Bool
  | [] => (nodes[i]?.getD Node.bare).terminal
  | bit :: bits =>
    let node := nodes[i]?.getD Node.bare
    if node.terminal then true
    else
      match node.child bit with
      | some next => covered nodes next bits
      | none => false

/-- Whether some inserted string stands at the front of `bits`. -/
def covers (t : Trie) (bits : List Bool) : Bool := covered t.nodes 0 bits

end Trie

end AccessBroker.Network
