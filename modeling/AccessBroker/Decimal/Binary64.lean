/-
Binary floating numbers of 64 bits, in exact arithmetic.

A number is a sign, a whole mantissa below 2^53 and a power of two. `nearest?`
rounds a quotient to the nearest such number, a tie to the even mantissa, and
gives `none` past the largest. `shortest` gives the fewest decimal digits that
round back to a number, and of those the nearest to it.
-/
import AccessBroker.Text.Number

namespace AccessBroker

/-- The number `mantissa * 2 ^ exponent`, with a sign. -/
structure Binary64 where
  negative : Bool
  mantissa : Nat
  exponent : Int
  deriving DecidableEq

namespace Binary64

/-- The nearest whole number to a quotient, a tie to the even one. -/
def roundDiv (num den : Nat) : Nat :=
  let q := num / den
  let twice := 2 * (num % den)
  if twice < den then q
  else if den < twice then q + 1
  else if q % 2 = 0 then q
  else q + 1

/-- `num / den` in units of `2 ^ e`, as a quotient of whole numbers. -/
def inUnits (num den : Nat) (e : Int) : Nat × Nat :=
  if 0 ≤ e then (num, den * Nat.pow 2 e.toNat) else (num * Nat.pow 2 (-e).toNat, den)

/-- The exponent at which the mantissa of `num / den` has 53 bits, or the least one there is. -/
def unitExponent (num den : Nat) : Int :=
  let guess : Int := (Nat.log2 num : Int) - (Nat.log2 den : Int) - 52
  let (n, d) := inUnits num den guess
  max (-1074) (if n / d < Nat.pow 2 52 then guess - 1 else guess)

/-- Rounds `num / den` to the nearest mantissa and exponent. -/
def nearest? (num den : Nat) : Option (Nat × Int) :=
  if num = 0 ∨ den = 0 then some (0, -1074)
  else
    let e := unitExponent num den
    let (n, d) := inUnits num den e
    let m := roundDiv n d
    let (m, e) := if m = Nat.pow 2 53 then (Nat.pow 2 52, e + 1) else (m, e)
    if 971 < e then none else some (m, e)

/-- The value of a mantissa and an exponent as a quotient. -/
def ratio (m : Nat) (e : Int) : Nat × Nat :=
  if 0 ≤ e then (m * Nat.pow 2 e.toNat, 1) else (m, Nat.pow 2 (-e).toNat)

/-- The nearest number to a whole number, without regard to sign. -/
def ofNat? (n : Nat) : Option (Nat × Int) := nearest? n 1

/-! ## The fewest digits -/

/-- Compares `a / b` with `c / d`. -/
def ratioLe (a b c d : Nat) : Bool := a * d ≤ c * b

/-- `d * 10 ^ k` as a quotient. -/
def gridPoint (d : Nat) (k : Int) : Nat × Nat :=
  if 0 ≤ k then (d * Nat.pow 10 k.toNat, 1) else (d, Nat.pow 10 (-k).toNat)

/-- Whether `d * 10 ^ k` rounds to the number with mantissa `m` and exponent `e`. -/
def roundsTo (m : Nat) (e : Int) (d : Nat) (k : Int) : Bool :=
  let (p, q) := gridPoint d k
  let (lo, loDen) :=
    if m = Nat.pow 2 52 ∧ -1074 < e then ratio (4 * m - 1) (e - 2) else ratio (2 * m - 1) (e - 1)
  let (hi, hiDen) := ratio (2 * m + 1) (e - 1)
  if m % 2 = 0 then ratioLe lo loDen p q && ratioLe p q hi hiDen
  else !ratioLe p q lo loDen && !ratioLe hi hiDen p q

/-- The value divided by `10 ^ k`, rounded down. -/
def floorAt (m : Nat) (e : Int) (k : Int) : Nat :=
  let (a, b) := ratio m e
  if 0 ≤ k then a / (b * Nat.pow 10 k.toNat) else a * Nat.pow 10 (-k).toNat / b

/-- Whether the value is nearer to `(d + 1) * 10 ^ k` than to `d * 10 ^ k`, a tie to the even one. -/
def nearerAbove (m : Nat) (e : Int) (d : Nat) (k : Int) : Bool :=
  let (a, b) := ratio (2 * m) e
  let (p, q) := gridPoint (2 * d + 1) k
  if a * q = p * b then d % 2 = 1 else !ratioLe a b p q

/-- The power of ten of the value's first digit. -/
def decimalExponent (m : Nat) (e : Int) : Int :=
  let rough : Int := ((Nat.log2 m : Int) + e) * 30103 / 100000
  if floorAt m e (rough + 1) ≠ 0 then rough + 1
  else if floorAt m e rough ≠ 0 then rough
  else rough - 1

/-- Tries the grids of `n` digits, then of one more, until one holds a point that rounds back. -/
def searchDigits (m : Nat) (e top : Int) : Nat → Nat → Nat × Int
  | 0, n => (floorAt m e (top - n + 1), top - n + 1)
  | tries + 1, n =>
    let k := top - n + 1
    let d := floorAt m e k
    let below := roundsTo m e d k
    let above := roundsTo m e (d + 1) k
    if below && above then (if nearerAbove m e d k then d + 1 else d, k)
    else if below then (d, k)
    else if above then (d + 1, k)
    else searchDigits m e top tries (n + 1)

/-- A whole number and a power of ten without zeros at the end of the former. -/
def dropZeros : Nat → Nat → Int → Nat × Int
  | 0, d, k => (d, k)
  | tries + 1, d, k => if d ≠ 0 ∧ d % 10 = 0 then dropZeros tries (d / 10) (k + 1) else (d, k)

/-- The fewest digits, and the power of ten of the last, that round back to the number. -/
def shortest (x : Binary64) : Nat × Int :=
  if x.mantissa = 0 then (0, 0)
  else
    let (d, k) := searchDigits x.mantissa x.exponent (decimalExponent x.mantissa x.exponent) 17 1
    dropZeros 20 d k

/-! ## Written forms -/

/-- Digits with the point `point` places after the first of them, and at least one digit on either
side of it where `fraction` asks for a digit after it. -/
def positional (fraction : Bool) (digits : List Char) (point : Int) : List Char :=
  if point ≤ 0 then "0.".toList ++ List.replicate (-point).toNat '0' ++ digits
  else
    let whole := digits.take point.toNat
    let rest := digits.drop point.toNat
    let whole := whole ++ List.replicate (point.toNat - whole.length) '0'
    if rest.isEmpty then whole ++ (if fraction then ".0".toList else []) else whole ++ ['.'] ++ rest

/-- The sign in front of a written number. -/
def signed (x : Binary64) (cs : List Char) : String :=
  String.ofList (if x.negative then '-' :: cs else cs)

/-- Written without an exponent, and without a point if the number is whole. -/
def plainText (x : Binary64) : String :=
  let (d, k) := x.shortest
  let digits := Text.natDigits d
  x.signed (if d = 0 then ['0'] else positional false digits (digits.length + k))

/-- Written with a point, or with an exponent of at least two digits when the first digit stands
for less than 10^-5 or for 10^16 and more. -/
def scientificText (x : Binary64) : String :=
  let (d, k) := x.shortest
  let digits := Text.natDigits d
  let top : Int := digits.length + k - 1
  if d = 0 then x.signed "0.0".toList
  else if -5 ≤ top ∧ top ≤ 15 then x.signed (positional true digits (top + 1))
  else
    let lead :=
      match digits with
      | [one] => [one]
      | first :: rest => first :: '.' :: rest
      | [] => []
    x.signed (lead ++ ['e', if top < 0 then '-' else '+'] ++ Text.padded 2 top.natAbs)

end Binary64

end AccessBroker
