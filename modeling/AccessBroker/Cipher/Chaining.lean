/-
Messages of any length, block by block.

A message is padded to full blocks by as many bytes as are missing, each
holding their number; a full block is added to a message that fills its last
one. Each block is then added to the encrypted block before it, the first to
an initial block, and encrypted.
-/
import AccessBroker.Cipher.Aes

namespace AccessBroker.Cipher

open Aes (Block Schedule)

/-! ## Padding -/

/-- A message filled up to full blocks of 16 bytes. -/
def pad (message : List UInt8) : List UInt8 :=
  let n := 16 - message.length % 16
  message ++ List.replicate n (UInt8.ofNat n)

/-- The message that was filled up; `none` if the bytes at the end are no padding. -/
def unpad? (bytes : List UInt8) : Option (List UInt8) :=
  match bytes.getLast? with
  | none => none
  | some b =>
    let n := b.toNat
    if 1 ≤ n ∧ n ≤ 16 ∧ n ≤ bytes.length ∧ (bytes.drop (bytes.length - n)).all (· = b) then
      some (bytes.take (bytes.length - n))
    else none

/-! ## Chaining -/

/-- Encrypts blocks, each added to the encrypted one before it. -/
def encryptBlocks (k : Schedule) (before : Block) : List Block → List Block
  | [] => []
  | x :: rest =>
    let y := Aes.encrypt k (x.xor before)
    y :: encryptBlocks k y rest

/-- Decrypts blocks, and adds to each the encrypted one before it. -/
def decryptBlocks (k : Schedule) (before : Block) : List Block → List Block
  | [] => []
  | y :: rest => (Aes.decrypt k y).xor before :: decryptBlocks k y rest

/-- The bytes of some blocks. -/
def bytesOf (blocks : List Block) : List UInt8 := blocks.flatMap Block.bytes

/-- The initial block that 16 bytes make. -/
def initial? (bytes : List UInt8) : Option Block :=
  match Block.ofBytes? bytes with
  | some [block] => some block
  | _ => none

/-- Encrypts a message. -/
def encrypt (k : Schedule) (initial : Block) (message : List UInt8) : List UInt8 :=
  bytesOf (encryptBlocks k initial ((Block.ofBytes? (pad message)).getD []))

/-- Decrypts a message; `none` if the bytes are no full blocks or end in no padding. -/
def decrypt? (k : Schedule) (initial : Block) (bytes : List UInt8) : Option (List UInt8) := do
  let blocks ← Block.ofBytes? bytes
  unpad? (bytesOf (decryptBlocks k initial blocks))

end AccessBroker.Cipher
