/-
The tokens of a JSON text.

Tokens are cut from bytes without a look at their meaning: the inside of a
quoted text is kept as it stands, checked only for its escapes being escapes
and for control characters, and a number is kept digit by digit. So a reader
may pass over a value it has no use for although its text is broken inside or
its number is out of range.
-/
import AccessBroker.Text.Number

namespace AccessBroker.Json

/-- A number as spelled: whether a minus sign stands in front, the digits before the point, the
digits after it, and the exponent; the last two only if spelled. -/
structure Spelled where
  negative : Bool
  whole : List Nat
  fraction : Option (List Nat)
  exponent : Option (Bool × List Nat)
  deriving DecidableEq

/-- One token; the quoted text holds the bytes between its quotes. -/
inductive Token where
  | openArray
  | closeArray
  | openObject
  | closeObject
  | comma
  | colon
  | null
  | bool (b : Bool)
  | number (n : Spelled)
  | quoted (inside : List UInt8)
  deriving DecidableEq

namespace Token

/-- The bytes that may stand between tokens: space, tab, line feed, carriage return. -/
def isSpace (b : UInt8) : Bool := b = 0x20 || b = 0x09 || b = 0x0A || b = 0x0D

/-- The value of a decimal digit. -/
def digit? (b : UInt8) : Option Nat :=
  if 0x30 ≤ b ∧ b ≤ 0x39 then some (b.toNat - 0x30) else none

/-- Whether a byte is a hexadecimal digit. -/
def isHex (b : UInt8) : Bool :=
  (0x30 ≤ b && b ≤ 0x39) || (0x61 ≤ b && b ≤ 0x66) || (0x41 ≤ b && b ≤ 0x46)

/-- Whether a byte may follow a backslash alone. -/
def isShortEscape (b : UInt8) : Bool :=
  b = 0x22 || b = 0x5C || b = 0x2F || b = 0x62 || b = 0x66 || b = 0x6E || b = 0x72 || b = 0x74

/-- The bytes up to the closing quote, and those after it. -/
def inside? : List UInt8 → Option (List UInt8 × List UInt8)
  | [] => none
  | 0x22 :: rest => some ([], rest)
  | 0x5C :: 0x75 :: a :: b :: c :: d :: rest =>
    if isHex a && isHex b && isHex c && isHex d then
      (inside? rest).map fun (xs, after) => (0x5C :: 0x75 :: a :: b :: c :: d :: xs, after)
    else none
  | 0x5C :: b :: rest =>
    if isShortEscape b then (inside? rest).map fun (xs, after) => (0x5C :: b :: xs, after)
    else none
  | b :: rest =>
    if b < 0x20 ∨ b = 0x5C then none
    else (inside? rest).map fun (xs, after) => (b :: xs, after)

/-- The digits at the front, and the bytes after them. -/
def digits : List UInt8 → List Nat × List UInt8
  | [] => ([], [])
  | b :: rest =>
    match digit? b with
    | some d => let (ds, after) := digits rest; (d :: ds, after)
    | none => ([], b :: rest)

/-- The digits before the point: a zero alone, or digits that begin with another. -/
def whole? (bytes : List UInt8) : Option (List Nat × List UInt8) :=
  match digits bytes with
  | ([], _) => none
  | (0 :: _ :: _, _) => none
  | (ds, after) => some (ds, after)

/-- A point and the digits after it, if there is a point. -/
def fraction? : List UInt8 → Option (Option (List Nat) × List UInt8)
  | 0x2E :: rest =>
    match digits rest with
    | ([], _) => none
    | (ds, after) => some (some ds, after)
  | bytes => some (none, bytes)

/-- The sign of an exponent: whether it is a minus sign, and the bytes after it. -/
def exponentSign : List UInt8 → Bool × List UInt8
  | 0x2B :: rest => (false, rest)
  | 0x2D :: rest => (true, rest)
  | bytes => (false, bytes)

/-- The letter, the sign and the digits of an exponent, if there is one. -/
def exponent? : List UInt8 → Option (Option (Bool × List Nat) × List UInt8)
  | [] => some (none, [])
  | b :: rest =>
    if b = 0x65 ∨ b = 0x45 then
      let (minus, rest) := exponentSign rest
      match digits rest with
      | ([], _) => none
      | (ds, after) => some (some (minus, ds), after)
    else some (none, b :: rest)

/-- The number at the front, after its sign. -/
def number? (negative : Bool) (bytes : List UInt8) : Option (Token × List UInt8) := do
  let (whole, bytes) ← whole? bytes
  let (fraction, bytes) ← fraction? bytes
  let (exponent, bytes) ← exponent? bytes
  some (.number ⟨negative, whole, fraction, exponent⟩, bytes)

/-- The token that begins with byte `b`, and the bytes after it. -/
def next? (b : UInt8) (rest : List UInt8) : Option (Token × List UInt8) :=
  match b, rest with
  | 0x5B, rest => some (openArray, rest)
  | 0x5D, rest => some (closeArray, rest)
  | 0x7B, rest => some (openObject, rest)
  | 0x7D, rest => some (closeObject, rest)
  | 0x2C, rest => some (comma, rest)
  | 0x3A, rest => some (colon, rest)
  | 0x6E, 0x75 :: 0x6C :: 0x6C :: rest => some (null, rest)
  | 0x74, 0x72 :: 0x75 :: 0x65 :: rest => some (bool true, rest)
  | 0x66, 0x61 :: 0x6C :: 0x73 :: 0x65 :: rest => some (bool false, rest)
  | 0x22, rest => (inside? rest).map fun (xs, after) => (quoted xs, after)
  | 0x2D, rest => number? true rest
  | b, rest => number? false (b :: rest)

/-- Cuts bytes into tokens; no more tokens are cut than there are bytes. -/
def cut? : Nat → List UInt8 → Option (List Token)
  | _, [] => some []
  | 0, _ :: _ => none
  | steps + 1, b :: rest =>
    if isSpace b then cut? steps rest
    else
      match next? b rest with
      | some (t, after) => (cut? steps after).map (t :: ·)
      | none => none

/-- The tokens of some bytes. -/
def ofBytes? (bytes : List UInt8) : Option (List Token) := cut? bytes.length bytes

end Token

end AccessBroker.Json
