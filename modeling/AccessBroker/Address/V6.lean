/-
Internet addresses of version 6.

An address is a word of 128 bits, read and written as eight groups of up to
four hexadecimal digits. In writing, the longest run of two or more zero
groups (the first of equals) becomes a double colon, and an address that
carries a version 4 address is written with that address at its end. In
reading, one double colon may stand for one or more zero groups, and a version
4 address may stand for the last two groups.
-/
import AccessBroker.Address.V4

namespace AccessBroker

/-- An address of 128 bits. -/
structure AddressV6 where
  bits : BitVec 128
  deriving DecidableEq

namespace AddressV6

/-- The address with the given groups of 16 bits, the most significant first. -/
def ofGroups (groups : List Nat) : AddressV6 :=
  ⟨BitVec.ofNat 128 (groups.foldl (fun n g => n * 65536 + g) 0)⟩

/-- The eight groups of an address, the most significant first. -/
def groups (a : AddressV6) : List Nat :=
  (List.range 8).map fun i => a.bits.toNat / Nat.pow 65536 (7 - i) % 65536

/-- The version 4 address that an address of the form `::ffff:a.b.c.d` carries. -/
def mapped? (a : AddressV6) : Option AddressV4 :=
  if a.bits.toNat / 4294967296 = 0xFFFF then some ⟨BitVec.ofNat 32 a.bits.toNat⟩ else none

/-- The version 6 address that carries a version 4 address. -/
def ofMapped (a : AddressV4) : AddressV6 :=
  ⟨BitVec.ofNat 128 (0xFFFF * 4294967296 + a.bits.toNat)⟩

/-! ## Writing -/

/-- The length of the run of zeros at the front. -/
def zerosAtFront (groups : List Nat) : Nat := (groups.takeWhile (· = 0)).length

/-- Where the longest run of zeros begins and how long it is; of equals, the first. -/
def longestZeros : List Nat → Nat × Nat
  | [] => (0, 0)
  | g :: rest =>
    let here := zerosAtFront (g :: rest)
    let (start, length) := longestZeros rest
    if here ≠ 0 ∧ length ≤ here then (0, here) else (start + 1, length)

/-- Groups in hexadecimal with colons between them. -/
def groupChars (groups : List Nat) : List Char :=
  List.intercalate [':'] (groups.map (Nat.toDigits 16))

/-- The characters of an address, all groups in hexadecimal. -/
def plainChars (a : AddressV6) : List Char :=
  let (start, length) := longestZeros a.groups
  if 1 < length then
    groupChars (a.groups.take start) ++ "::".toList ++ groupChars (a.groups.drop (start + length))
  else groupChars a.groups

/-- The characters of an address. -/
def chars (a : AddressV6) : List Char :=
  match a.mapped? with
  | some v4 => "::ffff:".toList ++ v4.chars
  | none => a.plainChars

/-- The text of an address. -/
def text (a : AddressV6) : String := String.ofList a.chars

/-! ## Reading -/

/-- The value of one group: one to four hexadecimal digits. -/
def group? (cs : List Char) : Option Nat :=
  if cs.length = 0 ∨ 4 < cs.length then none
  else cs.foldl (fun value c => do some (16 * (← value) + (← Text.hexDigit? c))) (some 0)

/-- The values of groups in text; where `closing` is set, a version 4 address
may stand as the last of them, for two groups. -/
def groupsOf? (closing : Bool) : List (List Char) → Option (List Nat)
  | [] => some []
  | [last] =>
    match group? last with
    | some g => some [g]
    | none =>
      if closing then
        (AddressV4.ofChars? last).map fun v4 => [v4.bits.toNat / 65536, v4.bits.toNat % 65536]
      else none
  | first :: rest => do
    let g ← group? first
    let gs ← groupsOf? closing rest
    some (g :: gs)

/-- The groups in a stretch of text; an empty stretch has none. -/
def stretch? (closing : Bool) (cs : List Char) : Option (List Nat) :=
  if cs.isEmpty then some [] else groupsOf? closing (Text.splitAll ':' cs)

/-- The two sides of the first double colon. -/
def splitDouble? : List Char → Option (List Char × List Char)
  | ':' :: ':' :: rest => some ([], rest)
  | c :: rest => (splitDouble? rest).map fun (before, after) => (c :: before, after)
  | [] => none

/-- Reads eight groups, or fewer with a double colon for the missing ones. -/
def ofChars? (cs : List Char) : Option AddressV6 :=
  match splitDouble? cs with
  | some (before, after) => do
    let front ← stretch? false before
    let back ← stretch? true after
    if front.length + back.length ≤ 7 then
      some (ofGroups (front ++ List.replicate (8 - front.length - back.length) 0 ++ back))
    else none
  | none => do
    let all ← groupsOf? true (Text.splitAll ':' cs)
    if all.length = 8 then some (ofGroups all) else none

/-- Reads an address in text. -/
def ofText? (s : String) : Option AddressV6 := ofChars? s.toList

end AddressV6

end AccessBroker
