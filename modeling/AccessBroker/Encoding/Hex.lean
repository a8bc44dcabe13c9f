/-
Bytes as pairs of hexadecimal digits.

Bytes are written in lower case and read in either case.
-/
import AccessBroker.Text.Number

namespace AccessBroker.Encoding.Hex

/-- The digits of some bytes. -/
def encodeChars (bytes : List UInt8) : List Char :=
  bytes.flatMap fun b => [Nat.digitChar (b.toNat / 16), Nat.digitChar (b.toNat % 16)]

/-- The text of some bytes. -/
def encode (bytes : List UInt8) : String := String.ofList (encodeChars bytes)

/-- The bytes of some digits. -/
def decodeChars? : List Char → Option (List UInt8)
  | [] => some []
  | a :: b :: rest => do
    let n := (← Text.hexDigit? a) * 16 + (← Text.hexDigit? b)
    let bytes ← decodeChars? rest
    some (UInt8.ofNat n :: bytes)
  | [_] => none

/-- The bytes of a text. -/
def decode? (s : String) : Option (List UInt8) := decodeChars? s.toList

end AccessBroker.Encoding.Hex
