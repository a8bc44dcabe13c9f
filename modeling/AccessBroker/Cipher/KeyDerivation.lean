/-
A key of 32 bytes from a password and a salt.

The key is the sum (bit by bit) of a chain of keyed digests: the first is that
of the salt and the number one, each later one that of the digest before it.
A keyed digest starts from two states that depend on the password alone, and
they are computed once for the whole chain.
-/
import AccessBroker.Cipher.Sha256

namespace AccessBroker.Cipher

/-- The two states that a keyed digest starts from. -/
structure KeyedDigest where
  inner : Sha256.State
  outer : Sha256.State

namespace KeyedDigest

/-- A key as one block: a long one by its digest, and zeros to the end of the block. -/
def keyBlock (key : List UInt8) : List UInt8 :=
  let short := if 64 < key.length then (Sha256.digest key).bytes else key
  short ++ List.replicate (64 - short.length) 0

/-- The states for a key. -/
def ofKey (key : List UInt8) : KeyedDigest :=
  let block := keyBlock key
  ⟨Sha256.start.feedAll (Sha256.words (block.map (· ^^^ 0x36))),
    Sha256.start.feedAll (Sha256.words (block.map (· ^^^ 0x5C)))⟩

/-- The keyed digest of a message. -/
def sum (k : KeyedDigest) (message : List UInt8) : Sha256.State :=
  k.outer.feedDigest (k.inner.finish 64 message)

/-- The keyed digest of a digest. -/
@[inline] def sumDigest (k : KeyedDigest) (d : Sha256.State) : Sha256.State :=
  k.outer.feedDigest (k.inner.feedDigest d)

end KeyedDigest

namespace KeyDerivation

/-- How many digests the chain has. -/
def iterations : Nat := 65536

/-- Adds `n` more digests of the chain, the last so far being `last`. -/
def chain (k : KeyedDigest) : Nat → Sha256.State → Sha256.State → Sha256.State
  | 0, _, total => total
  | n + 1, last, total =>
    let next := k.sumDigest last
    chain k n next (total.xor next)

/-- The key of 32 bytes for a password and a salt. -/
def derive (password salt : List UInt8) : List UInt8 :=
  let k := KeyedDigest.ofKey password
  let first := k.sum (salt ++ [0, 0, 0, 1])
  (chain k (iterations - 1) first first).bytes

end KeyDerivation

end AccessBroker.Cipher
