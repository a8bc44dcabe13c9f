/-
The privileged network: a list of blocks, compiled once.

An address is privileged when its canonical form is a version 4 address that
lies in one of the blocks. The compiled form is a trie over address bits, so a
question costs at most 32 steps however many blocks there are;
`Classifier.onList` is the same question asked of the list of blocks.
-/
import AccessBroker.Network.Block
import AccessBroker.Network.Trie

namespace AccessBroker.Network

/-- The blocks in the order given, and the trie compiled from them. -/
structure Classifier where
  blocks : List Block
  trie : Trie
  deriving DecidableEq

namespace Classifier

/-- The classifier of no block. -/
def empty : Classifier := ⟨[], Trie.empty⟩

/-- The classifier with one more block. -/
def insert (c : Classifier) (b : Block) : Classifier := ⟨c.blocks ++ [b], c.trie.insert b.path⟩

/-- Compiles a list of blocks. -/
def ofBlocks (blocks : List Block) : Classifier := blocks.foldl insert empty

/-- Reads every block and compiles them; the first text that is no block fails the whole. -/
def ofTexts (texts : List String) : Except BlockFault Classifier :=
  (texts.mapM Block.ofText).map ofBlocks

/-- Whether a version 4 address lies in one of the blocks. -/
def coversV4 (c : Classifier) (a : AddressV4) : Bool :=
  c.trie.covers ((List.range 32).map a.bit)

/-- Whether an address is on the privileged network. -/
def isPrivileged (c : Classifier) (a : Address) : Bool :=
  match a.canonical with
  | .v4 a => c.coversV4 a
  | .v6 _ => false

/-- Whether an address is privileged by the list of blocks alone. -/
def onList (blocks : List Block) (a : Address) : Bool :=
  match a.canonical with
  | .v4 a => blocks.any (·.contains a)
  | .v6 _ => false

end Classifier

end AccessBroker.Network
