/-
Internet addresses of version 4.

An address is a word of 32 bits. Its text is four decimal octets with dots
between them, each of one to three digits and without a leading zero; that is
the only spelling read and the only one written.
-/
import AccessBroker.Text.Number

namespace AccessBroker

/-- An address of 32 bits. -/
structure AddressV4 where
  bits : BitVec 32
  deriving DecidableEq

namespace AddressV4

/-- The address with the four given octets. -/
def ofOctets (a b c d : Nat) : AddressV4 :=
  ⟨BitVec.ofNat 32 (((a * 256 + b) * 256 + c) * 256 + d)⟩

/-- The octets of an address, the most significant first. -/
def octets (a : AddressV4) : List Nat :=
  let n := a.bits.toNat
  [n / 16777216, n / 65536 % 256, n / 256 % 256, n % 256]

/-- The characters of an address: its octets with dots between them. -/
def chars (a : AddressV4) : List Char :=
  List.intercalate ['.'] (a.octets.map Text.natDigits)

/-- The text of an address. -/
def text (a : AddressV4) : String := String.ofList a.chars

/-- The value of one octet: one to three digits, no leading zero, at most 255. -/
def octet? (cs : List Char) : Option Nat :=
  if cs.length = 0 ∨ 3 < cs.length then none
  else if cs.head? = some '0' ∧ 1 < cs.length then none
  else (Text.digitsFrom 255 0 cs).toOption

/-- Reads four octets with dots between them. -/
def ofChars? (cs : List Char) : Option AddressV4 :=
  match Text.splitAll '.' cs with
  | [a, b, c, d] => do
    let a ← octet? a
    let b ← octet? b
    let c ← octet? c
    let d ← octet? d
    some (ofOctets a b c d)
  | _ => none

/-- Reads an address in text. -/
def ofText? (s : String) : Option AddressV4 := ofChars? s.toList

/-- Bit `i` of an address, counted from the most significant. -/
def bit (a : AddressV4) (i : Nat) : Bool := a.bits.getMsbD i

/-- The word whose first `n` bits are set. -/
def mask (n : Nat) : BitVec 32 := BitVec.allOnes 32 <<< (32 - n)

/-- The address with all bits after the first `n` cleared. -/
def masked (a : AddressV4) (n : Nat) : AddressV4 := ⟨a.bits &&& mask n⟩

end AddressV4

end AccessBroker
