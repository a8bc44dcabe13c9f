/-
The composed normal form of text.

Characters are taken apart, the marks after each base are put in the order of
their combining classes, and what can be put together is put together again.
The syllables of Hangul follow arithmetic, all else the tables.
-/
import AccessBroker.Idna.Table

namespace AccessBroker.Idna.Composition

/-! ## Hangul -/

/-- The first syllable. -/
def syllableBase : Nat := 0xAC00

/-- The first leading consonant. -/
def leadBase : Nat := 0x1100

/-- The first vowel. -/
def vowelBase : Nat := 0x1161

/-- The code point before the first trailing consonant. -/
def trailBase : Nat := 0x11A7

/-- Whether a code point is a syllable. -/
def isSyllable (c : Nat) : Bool := syllableBase ≤ c && c < syllableBase + 11172

/-- The letters of a syllable. -/
def syllableParts (c : Nat) : List Nat :=
  let i := c - syllableBase
  let trail := i % 28
  [leadBase + i / 588, vowelBase + i % 588 / 28] ++ (if trail = 0 then [] else [trailBase + trail])

/-- The syllable of two letters, or of a syllable and a trailing consonant. -/
def syllable? (a b : Nat) : Option Nat :=
  if leadBase ≤ a ∧ a < leadBase + 19 ∧ vowelBase ≤ b ∧ b < vowelBase + 21 then
    some (syllableBase + ((a - leadBase) * 21 + (b - vowelBase)) * 28)
  else if isSyllable a ∧ (a - syllableBase) % 28 = 0 ∧ trailBase < b ∧ b < trailBase + 28 then
    some (a + (b - trailBase))
  else none

/-! ## Taking apart -/

/-- The parts of a character, taken apart at most `steps` times. -/
def parts : Nat → Nat → List Nat
  | 0, c => [c]
  | steps + 1, c =>
    if c < 0xC0 then [c]
    else if isSyllable c then syllableParts c
    else
      match decompositions.lookup c with
      | some (a :: b :: _) => parts steps a ++ [b]
      | some [a] => parts steps a
      | _ => [c]

/-- Puts a character in front of characters in order, behind the marks of lower class. -/
def place (c : Nat) : List Nat → List Nat
  | [] => [c]
  | x :: rest =>
    let k := combiningClass x
    if k ≠ 0 ∧ k < combiningClass c then x :: place c rest else c :: x :: rest

/-- Characters taken apart, with their marks in order. -/
def decompose (cs : List Nat) : List Nat := (cs.flatMap (parts 8)).foldr place []

/-! ## Putting together -/

/-- The character that two parts make. -/
def pair? (a b : Nat) : Option Nat :=
  match syllable? a b with
  | some c => some c
  | none =>
    if a < 0x3C ∨ b < 0x300 then none
    else (decompositions.find? fun e => e.2 = [a, b]).map Prod.fst

/-- Puts together what follows a base; `skipped` are the marks that stay apart, the last first, and
`highest` is the class of the last of them. -/
def composeFrom (base : Nat) (skipped : List Nat) (highest : Nat) : List Nat → List Nat
  | [] => base :: skipped.reverse
  | c :: rest =>
    let k := combiningClass c
    match if skipped.isEmpty || highest < k then pair? base c else none with
    | some p => composeFrom p skipped highest rest
    | none =>
      if k = 0 then base :: skipped.reverse ++ composeFrom c [] 0 rest
      else composeFrom base (c :: skipped) k rest

/-- Characters put together. -/
def compose : List Nat → List Nat
  | [] => []
  | c :: rest => composeFrom c [] 0 rest

/-- The composed normal form. -/
def normal (cs : List Char) : List Char :=
  if cs.all fun c => c.toNat < 0x300 then cs
  else (compose (decompose (cs.map Char.toNat))).map Char.ofNat

end AccessBroker.Idna.Composition
