/-
The values that JSON texts stand for.

A number spelled without point and exponent is exact if it fits into 64 bits.
Every other number is its digits as one whole number of at most 64 bits,
rounded, then multiplied or divided by a rounded power of ten and rounded again;
digits past the 64 bits count only by their place. A number past the largest
floating number, a text with a broken character or half a character, and a text
nested deeper than `maxDepth` have no value.
-/
import AccessBroker.Json.Basic
import AccessBroker.Json.Tree

namespace AccessBroker.Json

namespace Spelled

/-- The largest whole number of 64 bits. -/
def maxWord : Nat := Nat.pow 2 64 - 1

/-- Digits taken into a whole number while it fits into 64 bits; the digits left over. -/
def gather (value : Nat) : List Nat → Nat × List Nat
  | [] => (value, [])
  | d :: ds => if 10 * value + d ≤ maxWord then gather (10 * value + d) ds else (value, d :: ds)

/-- A whole number and a power of ten for the digits on both sides of the point. -/
def parts (n : Spelled) : Nat × Int :=
  let (value, left) := gather 0 n.whole
  let after := n.fraction.getD []
  let (value', left') := gather value after
  (value', (left.length : Int) - ((after.length : Int) - (left'.length : Int)))

/-- The power of ten that an exponent adds; `none` if it has more than 31 bits. -/
def exponentValue? (ds : List Nat) : Option Nat :=
  let n := ds.foldl (fun v d => 10 * v + d) 0
  if n ≤ 2147483647 then some n else none

/-- The floating number `10 ^ n`, for `n` up to 308. -/
def powerOfTen (n : Nat) : Nat × Int := (Binary64.nearest? (Nat.pow 10 n) 1).getD (0, 0)

/-- A product, rounded. -/
def times? (x y : Nat × Int) : Option (Nat × Int) :=
  let (a, b) := Binary64.ratio (x.1 * y.1) (x.2 + y.2)
  Binary64.nearest? a b

/-- A quotient, rounded. -/
def over? (x y : Nat × Int) : Option (Nat × Int) :=
  let (a, b) := Binary64.ratio x.1 (x.2 - y.2)
  Binary64.nearest? a (b * y.1)

/-- Times or over a power of ten, in steps of at most 308 places downwards; past the third step
nothing is left of a number of 64 bits. -/
def scale? : Nat → Nat × Int → Int → Option (Nat × Int)
  | steps, x, e =>
    if e.natAbs ≤ 308 then
      if 0 ≤ e then times? x (powerOfTen e.toNat) else over? x (powerOfTen (-e).toNat)
    else if x.1 = 0 then some x
    else if 0 ≤ e then none
    else
      match steps with
      | 0 => some (0, -1074)
      | steps + 1 => (over? x (powerOfTen 308)).bind fun x => scale? steps x (e + 308)

/-- The floating number that is spelled. -/
def float? (n : Spelled) : Option Binary64 :=
  let (value, e) := n.parts
  let scaled :=
    match n.exponent with
    | none => (Binary64.ofNat? value).bind fun x => scale? 3 x e
    | some (minus, ds) =>
      match exponentValue? ds with
      | some more =>
        (Binary64.ofNat? value).bind fun x => scale? 3 x (if minus then e - more else e + more)
      | none => if value ≠ 0 ∧ !minus then none else some (0, -1074)
  scaled.map fun (m, e) => ⟨n.negative, m, e⟩

/-- The number that is spelled; `none` if it is past the largest. -/
def value? (n : Spelled) : Option Json :=
  let whole := gather 0 n.whole
  match n.fraction, n.exponent, whole with
  | none, none, (v, []) =>
    if !n.negative then some (.whole v)
    else if v ≠ 0 ∧ v ≤ Nat.pow 2 63 then some (.whole (-v))
    else n.float?.map .float
  | _, _, _ => n.float?.map .float

end Spelled

namespace Tree

mutual

/-- How deep arrays and objects are nested. -/
def depth : Tree → Nat
  | array elements => depthList elements + 1
  | object members => depthMembers members + 1
  | _ => 0

/-- The greatest depth among some trees. -/
def depthList : List Tree → Nat
  | [] => 0
  | t :: rest => max (depth t) (depthList rest)

/-- The greatest depth among the values of some members. -/
def depthMembers : List (List UInt8 × Tree) → Nat
  | [] => 0
  | (_, t) :: rest => max (depth t) (depthMembers rest)

end

mutual

/-- The value of a tree, if each part of it has one. -/
def value? : Tree → Option Json
  | null => some .null
  | bool b => some (.bool b)
  | number n => n.value?
  | quoted s => (unquote? s).map .text
  | array elements => (valueList? elements).map .array
  | object members => (valueMembers? members).map .object

/-- The values of some trees. -/
def valueList? : List Tree → Option (List Json)
  | [] => some []
  | t :: rest => do
    let j ← value? t
    let js ← valueList? rest
    some (j :: js)

/-- The names and values of some members. -/
def valueMembers? : List (List UInt8 × Tree) → Option (List (String × Json))
  | [] => some []
  | (name, t) :: rest => do
    let name ← unquote? name
    let j ← value? t
    let js ← valueMembers? rest
    some ((name, j) :: js)

end

end Tree

/-- How deep arrays and objects may be nested in a text that is read as a whole. -/
def maxDepth : Nat := 127

/-- Reads a JSON text as a whole. -/
def ofBytes? (bytes : List UInt8) : Option Json := do
  let t ← Tree.ofBytes? bytes
  if t.depth ≤ maxDepth then t.value? else none

/-- Reads a JSON text as a whole. -/
def read? (s : String) : Option Json := ofBytes? (Text.Utf8.encode s)

end AccessBroker.Json
