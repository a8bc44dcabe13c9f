/-
The character tables of host names, read from their texts.
-/
import AccessBroker.Idna.CharacterTable
import AccessBroker.Idna.MappingTable
import AccessBroker.Text.Hidden

namespace AccessBroker.Idna

/-- The entries of a table: words between blanks, each of numbers with commas between them. -/
def entries (text : String) : List (List Nat) :=
  let flat := text.toList.map fun c => if c = '\n' then ' ' else c
  ((Text.splitAll ' ' flat).filter fun word => !word.isEmpty).map fun word =>
    (Text.splitAll ',' word).map fun ds => ds.foldl (fun n c => 10 * n + (c.toNat - '0'.toNat)) 0

/-- Entries keyed by code points, which are given as distances from the one before. -/
def keyed : Nat → List (List Nat) → List (Nat × List Nat)
  | _, [] => []
  | _, [] :: _ => []
  | base, (d :: values) :: rest => (base + d, values) :: keyed (base + d) rest

/-- Classes given by the lengths of all stretches, from the code point `base`. -/
def classAt (other : Nat) (c : Nat) : List (List Nat) → Nat
  | [n, k] :: rest => if c < n then k else classAt other (c - n) rest
  | _ => other

/-- The class of the stretch that holds a code point. -/
def stretchClass? (c : Nat) : List (Nat × List Nat) → Option Nat
  | (start, [n, k]) :: rest =>
    if c < start then none else if c < start + n then some k else stretchClass? c rest
  | _ => none

/-! ## Mapping -/

/-- The characters that no host name may hold, as stretches. -/
def forbiddenStretches : List Nat := Text.numbersFrom none forbiddenText.toList

/-- The characters that are dropped, as stretches. -/
def ignoredStretches : List Nat := Text.numbersFrom none ignoredText.toList

/-- What is put in the place of characters. -/
def mapping : List (Nat × List Nat) := keyed 0 (entries mappingText)

/-- Whether no host name may hold a character. -/
def isForbidden (c : Char) : Bool := Text.inStretches false forbiddenStretches c.toNat

/-- Whether a character is dropped. -/
def isIgnored (c : Char) : Bool := Text.inStretches false ignoredStretches c.toNat

/-- What is put in the place of a character, if anything is. -/
def mapped? (c : Char) : Option (List Char) :=
  (mapping.lookup c.toNat).map fun cs => cs.map Char.ofNat

/-! ## Properties -/

/-- What characters decompose to; a zero at the end if it is never put together again. -/
def decompositions : List (Nat × List Nat) := keyed 0 (entries decompositionText)

/-- The stretches of the combining classes. -/
def combiningStretches : List (Nat × List Nat) := keyed 0 (entries combiningText)

/-- The combining class of a code point. -/
def combiningClass (c : Nat) : Nat :=
  if c < 0x300 then 0 else (stretchClass? c combiningStretches).getD 0

/-- The marks, as stretches. -/
def markStretches : List Nat := Text.numbersFrom none markText.toList

/-- Whether a character is a mark. -/
def isMark (c : Char) : Bool := Text.inStretches false markStretches c.toNat

/-- The stretches of the classes of direction. -/
def directionStretches : List (List Nat) := entries directionText

/-- Classes of direction that the rules for host names tell apart. -/
inductive Direction where
  | left
  | right
  | arabicLetter
  | european
  | europeanSeparator
  | europeanTerminator
  | arabicNumber
  | commonSeparator
  | mark
  | boundary
  | neutral
  | other
  deriving DecidableEq

/-- The class of direction with a place in the table. -/
def Direction.atPlace : Nat → Direction
  | 0 => left
  | 1 => right
  | 2 => arabicLetter
  | 3 => european
  | 4 => europeanSeparator
  | 5 => europeanTerminator
  | 6 => arabicNumber
  | 7 => commonSeparator
  | 8 => mark
  | 9 => boundary
  | 10 => neutral
  | _ => other

/-- The class of direction of a character. -/
def direction (c : Char) : Direction := .atPlace (classAt 11 c.toNat directionStretches)

/-- The stretches of the joining types. -/
def joiningStretches : List (Nat × List Nat) := keyed 0 (entries joiningText)

/-- How a character joins its neighbours. -/
inductive Joining where
  | left
  | right
  | dual
  | transparent
  | none
  deriving DecidableEq

/-- How a character joins its neighbours. -/
def joining (c : Char) : Joining :=
  match stretchClass? c.toNat joiningStretches with
  | some 0 => .left
  | some 1 => .right
  | some 2 => .dual
  | some 3 => .transparent
  | _ => .none

end AccessBroker.Idna
