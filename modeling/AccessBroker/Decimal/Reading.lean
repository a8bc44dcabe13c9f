/-
Decimal spellings of floating numbers.

A spelling has an optional sign, digits with at most one point among, before or
after them, and an optional exponent of ten. It stands for the nearest binary
floating number, or for an infinite value when it is past the largest.
-/
import AccessBroker.Decimal.Binary64

namespace AccessBroker.Decimal

/-- What a spelling stands for. -/
inductive Spelling where
  | finite (x : Binary64)
  | infinite (negative : Bool)
  deriving DecidableEq

namespace Spelling

/-- The digits at the front, and the characters after them. -/
def digits : List Char → List Nat × List Char
  | [] => ([], [])
  | c :: rest =>
    match Text.digit? c with
    | some d => let (ds, after) := digits rest; (d :: ds, after)
    | none => ([], c :: rest)

/-- The sign at the front: whether it is a minus sign. -/
def sign : List Char → Bool × List Char
  | '+' :: rest => (false, rest)
  | '-' :: rest => (true, rest)
  | cs => (false, cs)

/-- The digits after a point, if there is a point. -/
def fraction : List Char → List Nat × List Char
  | '.' :: rest => digits rest
  | cs => ([], cs)

/-- An exponent that takes up all that is left; none at all counts as zero. -/
def exponent? : List Char → Option Int
  | [] => some 0
  | c :: rest =>
    if c = 'e' ∨ c = 'E' then
      let (minus, rest) := sign rest
      match digits rest with
      | ([], _) => none
      | (ds, []) =>
        let n : Nat := ds.foldl (fun v d => 10 * v + d) 0
        some (if minus then -(n : Int) else n)
      | _ => none
    else none

/-- The value of `d * 10 ^ e`, which has `count` digits before the power. Numbers far out of range
are told by their size alone. -/
def valueOf (negative : Bool) (d count : Nat) (e : Int) : Spelling :=
  if d = 0 ∨ e + count < -400 then finite ⟨negative, 0, -1074⟩
  else if 400 < e then infinite negative
  else
    let (num, den) := if 0 ≤ e then (d * Nat.pow 10 e.toNat, 1) else (d, Nat.pow 10 (-e).toNat)
    match Binary64.nearest? num den with
    | some (m, k) => finite ⟨negative, m, k⟩
    | none => infinite negative

/-- Reads a spelling. -/
def ofChars? (cs : List Char) : Option Spelling := do
  let (minus, cs) := sign cs
  let (whole, cs) := digits cs
  let (after, cs) := fraction cs
  let e ← exponent? cs
  let ds := whole ++ after
  if ds.isEmpty then none
  else some (valueOf minus (ds.foldl (fun v d => 10 * v + d) 0) ds.length (e - after.length))

end Spelling

end AccessBroker.Decimal
