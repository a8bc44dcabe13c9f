/-
Network blocks: the addresses that share their first bits with a given one.

A block keeps its address with all later bits cleared, so a block has one
written form. `contains` is the plain meaning of a block, against which
`Network.Trie` is read.
-/
import AccessBroker.Address.Basic
import AccessBroker.Text.Blank

namespace AccessBroker

namespace Network

/-- The addresses whose first `length` bits are those of `network`. -/
structure Block where
  network : AddressV4
  length : Nat
  length_le : length ≤ 32
  masked_eq : network.masked length = network
  deriving DecidableEq

/-- Why a text is no block. -/
inductive BlockFault where
  | lengthTooLong (address : AddressV4) (length : Nat)
  | missingSlash (text : String)
  | badAddress (text : String)
  | badLength (text : String) (cause : Text.NumberFault)
  deriving DecidableEq

namespace BlockFault

/-- The sentence that names the fault. -/
def message : BlockFault → String
  | lengthTooLong a n => "Invalid prefix length /" ++ Text.natText n ++ " for " ++ a.text
  | missingSlash s => "Invalid CIDR block '" ++ s ++ "': missing '/'"
  | badAddress s => "Invalid CIDR block '" ++ s ++ "': invalid IPv4 address syntax"
  | badLength s cause => "Invalid CIDR block '" ++ s ++ "': " ++ cause.message

end BlockFault

end Network

namespace AddressV4

theorem masked_masked (a : AddressV4) (n : Nat) : (a.masked n).masked n = a.masked n := by
  simp [masked, BitVec.and_assoc]

end AddressV4

namespace Network.Block

/-- The block of an address and a number of bits. -/
def of (a : AddressV4) (n : Nat) : Except BlockFault Block :=
  if h : n ≤ 32 then .ok ⟨a.masked n, n, h, a.masked_masked n⟩
  else .error (.lengthTooLong a n)

/-- Reads an address, a slash and a number of bits, blank characters around them dropped. -/
def ofText (s : String) : Except BlockFault Block :=
  let trimmed := Text.trim s
  match Text.splitFirst? '/' trimmed.toList with
  | none => .error (.missingSlash trimmed)
  | some (address, bits) =>
    match AddressV4.ofChars? address with
    | none => .error (.badAddress trimmed)
    | some a =>
      match Text.readNat 255 bits with
      | .error cause => .error (.badLength trimmed cause)
      | .ok n => of a n

/-- The text of a block. -/
def text (b : Block) : String := b.network.text ++ "/" ++ Text.natText b.length

/-- Whether an address lies in the block. -/
def contains (b : Block) (a : AddressV4) : Bool := a.masked b.length = b.network

/-- The bits that the addresses of a block share. -/
def path (b : Block) : List Bool := (List.range b.length).map b.network.bit

end Network.Block

end AccessBroker
