/-
Bytes spelled by a percent sign and two hexadecimal digits.

`encode` spells the bytes of the characters that a set picks out, and of all
that are not plain ASCII; `decodeBytes` reads every such spelling and leaves a
percent sign without two digits as it is.
-/
import AccessBroker.Text.Number
import AccessBroker.Text.Utf8

namespace AccessBroker.Text.Percent

/-- The spelling of a byte. -/
def spell (b : UInt8) : List Char :=
  ['%', asciiUpper (Nat.digitChar (b.toNat / 16)), asciiUpper (Nat.digitChar (b.toNat % 16))]

/-- Whether a character is a control character or not plain ASCII; every set holds these. -/
def isOutside (c : Char) : Bool := c.toNat < 0x20 || 0x7F ≤ c.toNat

/-- One character, spelled if it is outside plain ASCII or in the set. -/
def encodeChar (inSet : Char → Bool) (c : Char) : List Char :=
  if isOutside c || inSet c then (Utf8.encodeChar c).flatMap spell else [c]

/-- Characters, those in the set spelled. -/
def encodeChars (inSet : Char → Bool) (cs : List Char) : List Char :=
  cs.flatMap (encodeChar inSet)

/-- A text, the characters in the set spelled. -/
def encode (inSet : Char → Bool) (s : String) : String :=
  String.ofList (encodeChars inSet s.toList)

/-- The value of a byte as a hexadecimal digit. -/
def hexValue? (b : UInt8) : Option Nat :=
  if b < 0x80 then hexDigit? (Char.ofNat b.toNat) else none

/-- The bytes that are spelled or stand for themselves. -/
def decodeBytes : List UInt8 → List UInt8
  | [] => []
  | 0x25 :: a :: b :: rest =>
    match hexValue? a, hexValue? b with
    | some x, some y => UInt8.ofNat (16 * x + y) :: decodeBytes rest
    | _, _ => 0x25 :: decodeBytes (a :: b :: rest)
  | b :: rest => b :: decodeBytes rest

/-- The text that is spelled, if its bytes are those of one. -/
def decode? (s : String) : Option String := Utf8.decode? (decodeBytes (Utf8.encode s))

end AccessBroker.Text.Percent
