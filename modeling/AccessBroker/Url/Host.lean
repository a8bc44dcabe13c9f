/-
Hosts of addresses on the web.

A host in square brackets is a version 6 address. Under a scheme of the web any
other host is a name, spelled bytes read and mapped to ASCII; a name that ends
in a number must be a version 4 address, of one to four numbers in decimal,
octal or hexadecimal. Under any other scheme the host is kept as it is, apart
from the characters it may not hold.
-/
import AccessBroker.Address.V6
import AccessBroker.Idna.Domain
import AccessBroker.Text.Percent

namespace AccessBroker

/-- A host. -/
inductive Host where
  | name (s : String)
  | v4 (a : AddressV4)
  | v6 (a : AddressV6)
  deriving DecidableEq

namespace Host

/-- The text of a host. -/
def text : Host → String
  | name s => s
  | v4 a => a.text
  | v6 a => String.ofList ('[' :: a.plainChars ++ [']'])

/-- Whether there is nothing of a host. -/
def isEmpty : Host → Bool
  | name s => s.isEmpty
  | _ => false

/-! ## Numbers -/

/-- The value of digits to a base of at most 16; `none` if one is no digit of it. -/
def digitsValue? (base : Nat) (cs : List Char) : Option Nat :=
  cs.foldl (fun value c => do
    let v ← value
    let d ← Text.hexDigit? c
    if d < base then some (v * base + d) else none) (some 0)

/-- A number in decimal, in octal after a zero, or in hexadecimal after `0x`. -/
def number? : List Char → Option Nat
  | [] => none
  | '0' :: 'x' :: cs => digitsValue? 16 cs
  | '0' :: 'X' :: cs => digitsValue? 16 cs
  | '0' :: c :: cs => digitsValue? 8 (c :: cs)
  | cs => digitsValue? 10 cs

/-- The parts of a name between its dots, one dot at the end left out. -/
def dotParts (cs : List Char) : List (List Char) :=
  let parts := Text.splitAll '.' cs
  if 1 < parts.length ∧ parts.getLast? = some [] then parts.dropLast else parts

/-- Whether the last part of a name is a number, or would be one if it were not so large. -/
def endsInNumber (cs : List Char) : Bool :=
  match (dotParts cs).getLast? with
  | none => false
  | some [] => false
  | some last => last.all (fun c => (Text.digit? c).isSome) || (number? last).isSome

/-- The address of numbers, the last of which fills what the others leave. -/
def v4OfNumbers? (numbers : List Nat) : Option AddressV4 :=
  match numbers.reverse with
  | [] => none
  | last :: before =>
    let n := before.length
    if 3 < n ∨ Nat.pow 256 (4 - n) ≤ last ∨ before.any (255 < ·) then none
    else
      let high := before.reverse.foldl (fun v x => v * 256 + x) 0
      some ⟨BitVec.ofNat 32 (high * Nat.pow 256 (4 - n) + last)⟩

/-- The address that a name spells in numbers. -/
def v4OfName? (cs : List Char) : Option AddressV4 :=
  ((dotParts cs).mapM number?).bind v4OfNumbers?

/-! ## Reading -/

/-- The address in square brackets. -/
def bracketed? (cs : List Char) : Option Host :=
  if cs.getLast? = some ']' then (AddressV6.ofChars? cs.dropLast).map v6 else none

/-- The host of a name that is already in ASCII. -/
def ofAscii? (cs : List Char) : Option Host :=
  if cs.isEmpty then none
  else if endsInNumber cs then (v4OfName? cs).map v4
  else some (name (String.ofList cs))

/-- Reads a host under a scheme of the web. -/
def web? : List Char → Option Host
  | '[' :: cs => bracketed? cs
  | cs => do
    let plain ← Text.Utf8.decodeChars? (Text.Percent.decodeBytes (Text.Utf8.encodeChars cs))
    ofAscii? (← Idna.toAscii? plain)

/-- Whether a character may not stand in a host under any other scheme. -/
def isRefused (c : Char) : Bool := c.toNat = 0 || "\t\n\r #/:<>?@[\\]^|".toList.contains c

/-- Reads a host under any other scheme. -/
def plain? : List Char → Option Host
  | '[' :: cs => bracketed? cs
  | cs =>
    if cs.any isRefused then none
    else some (name (String.ofList (Text.Percent.encodeChars (fun _ => false) cs)))

end Host

end AccessBroker
