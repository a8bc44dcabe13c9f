/-
Text in the letters, digits and hyphen of ASCII.

The characters that are ASCII stand first, followed by a hyphen if there are
any. The others are told one by one, from the lowest up: each by the distance
to it, through all places and all code points, written as a number of digits
whose weights depend on how far apart the earlier ones lay.
-/
import AccessBroker.Text.Number

namespace AccessBroker.Idna.Punycode

/-- The digit of a value below 36. -/
def digitChar (n : Nat) : Char := if n < 26 then Char.ofNat (n + 97) else Char.ofNat (n + 22)

/-- The value of a digit. -/
def digit? (c : Char) : Option Nat :=
  if 'a' ≤ c ∧ c ≤ 'z' then some (c.toNat - 97)
  else if 'A' ≤ c ∧ c ≤ 'Z' then some (c.toNat - 65)
  else if '0' ≤ c ∧ c ≤ '9' then some (c.toNat - 22)
  else none

/-- The weight from which the digit at place `k` ends a number. -/
def threshold (k bias : Nat) : Nat := if k ≤ bias + 1 then 1 else if bias + 26 ≤ k then 26 else k - bias

/-- Divides by 35 while the distance is large, counting 36 each time. -/
def shrink (delta k : Nat) : Nat × Nat :=
  if 455 < delta then shrink (delta / 35) (k + 36) else (delta, k)
termination_by delta
decreasing_by omega

/-- The bias after a distance to a character, when there are `count` of them. -/
def adapt (delta count : Nat) (first : Bool) : Nat :=
  let delta := if first then delta / 700 else delta / 2
  let (delta, k) := shrink (delta + delta / count) 0
  k + 36 * delta / (delta + 38)

/-! ## Writing -/

/-- The digits of a number, from the place `k` on. -/
def number (bias : Nat) : Nat → Nat → Nat → List Char
  | 0, _, _ => []
  | steps + 1, k, q =>
    let t := threshold k bias
    if q < t then [digitChar q]
    else digitChar (t + (q - t) % (36 - t)) :: number bias steps (k + 36) ((q - t) / (36 - t))

/-- What is known while characters are told: the code point reached, the distance since the last one
told, the bias, and how many characters have been told or were ASCII. -/
structure Progress where
  code : Nat
  delta : Nat
  bias : Nat
  told : Nat

/-- Goes through all characters once and tells those of the code point reached. -/
def tell (basic : Nat) (p : Progress) : List Nat → Progress × List Char
  | [] => (p, [])
  | c :: rest =>
    if c < p.code then tell basic { p with delta := p.delta + 1 } rest
    else if c = p.code then
      let digits := number p.bias 40 36 p.delta
      let bias := adapt p.delta (p.told + 1) (p.told = basic)
      let (q, more) := tell basic { p with delta := 0, bias := bias, told := p.told + 1 } rest
      (q, digits ++ more)
    else tell basic p rest

/-- The lowest code point from `n` up. -/
def lowestFrom (n : Nat) (cs : List Nat) : Option Nat :=
  cs.foldl (fun low c =>
    if c < n then low
    else
      match low with
      | some l => some (min l c)
      | none => some c) none

/-- Tells all characters from the code point reached up, in at most `steps` goes. -/
def tellAll (cs : List Nat) (basic : Nat) : Nat → Progress → List Char
  | 0, _ => []
  | steps + 1, p =>
    match lowestFrom p.code cs with
    | none => []
    | some n =>
      let p := { p with delta := p.delta + (n - p.code) * (p.told + 1), code := n }
      let (p, digits) := tell basic p cs
      digits ++ tellAll cs basic steps { p with delta := p.delta + 1, code := n + 1 }

/-- The text in letters, digits and hyphens. -/
def encode (cs : List Char) : List Char :=
  let basic := cs.filter fun c => c.toNat < 0x80
  let start : Progress := ⟨0x80, 0, 72, basic.length⟩
  basic ++ (if basic.isEmpty then [] else ['-']) ++
    tellAll (cs.map Char.toNat) basic.length cs.length start

/-! ## Reading -/

/-- The number at the front, and what follows it. -/
def number? (bias : Nat) (k weight value : Nat) : List Char → Option (Nat × List Char)
  | [] => none
  | c :: rest =>
    match digit? c with
    | none => none
    | some d =>
      let t := threshold k bias
      let value := value + d * weight
      if d < t then some (value, rest) else number? bias (k + 36) (weight * (36 - t)) value rest

/-- Puts in the characters that are told, in at most `steps` steps. -/
def insertAll : Nat → Nat → Nat → Nat → List Char → List Char → Option (List Char)
  | _, _, _, _, out, [] => some out
  | 0, _, _, _, _, _ :: _ => none
  | steps + 1, code, i, bias, out, c :: rest =>
    match number? bias 36 1 0 (c :: rest) with
    | none => none
    | some (delta, rest) =>
      let count := out.length + 1
      let code := code + (i + delta) / count
      let place := (i + delta) % count
      if h : code.isValidChar then
        insertAll steps code (place + 1) (adapt delta count (i = 0))
          (out.take place ++ Char.ofNatAux code h :: out.drop place) rest
      else none

/-- The two sides of the last hyphen; without one, all is behind it. -/
def splitLast (cs : List Char) : List Char × List Char :=
  let back := cs.reverse.takeWhile (· ≠ '-')
  if back.length = cs.length then ([], cs)
  else
    let front := cs.take (cs.length - back.length - 1)
    if front.isEmpty then ([], cs) else (front, back.reverse)

/-- The characters of a text in letters, digits and hyphens. -/
def decode? (cs : List Char) : Option (List Char) :=
  let (basic, told) := splitLast cs
  if basic.all fun c => c.toNat < 0x80 then insertAll told.length 0x80 0 72 basic told else none

end AccessBroker.Idna.Punycode
