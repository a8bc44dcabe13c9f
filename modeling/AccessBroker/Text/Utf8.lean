/-
Text as bytes.

`encode` writes each character in one to four bytes. `scan` reads the first
character back, or says how many bytes at the front cannot begin one; both
`decode?`, which refuses broken bytes, and `decodeLossy`, which puts one
replacement character for each broken stretch, are built on it.
-/

namespace AccessBroker.Text.Utf8

/-- The bytes of one character. -/
def encodeChar (c : Char) : List UInt8 :=
  let n := c.toNat
  if n < 0x80 then [UInt8.ofNat n]
  else if n < 0x800 then [UInt8.ofNat (0xC0 + n / 64), UInt8.ofNat (0x80 + n % 64)]
  else if n < 0x10000 then
    [UInt8.ofNat (0xE0 + n / 4096), UInt8.ofNat (0x80 + n / 64 % 64), UInt8.ofNat (0x80 + n % 64)]
  else
    [UInt8.ofNat (0xF0 + n / 262144), UInt8.ofNat (0x80 + n / 4096 % 64),
      UInt8.ofNat (0x80 + n / 64 % 64), UInt8.ofNat (0x80 + n % 64)]

/-- The bytes of a run of characters. -/
def encodeChars (cs : List Char) : List UInt8 := cs.flatMap encodeChar

/-- The bytes of a text. -/
def encode (s : String) : List UInt8 := encodeChars s.toList

/-- What stands at the front of some bytes: a character and the bytes after it,
or bytes that cannot begin one and the bytes after those. -/
inductive Front where
  | char (c : Char) (rest : List UInt8)
  | broken (rest : List UInt8)

/-- Whether a byte continues a character begun before it. -/
def isTail (b : UInt8) : Bool := 0x80 ≤ b && b ≤ 0xBF

/-- The payload of a continuing byte. -/
def tailBits (b : UInt8) : Nat := b.toNat - 0x80

/-- Whether `b` may follow the lead byte of a character of three bytes. -/
def isSecondOfThree (lead b : UInt8) : Bool :=
  if lead = 0xE0 then 0xA0 ≤ b && b ≤ 0xBF
  else if lead = 0xED then 0x80 ≤ b && b ≤ 0x9F
  else isTail b

/-- Whether `b` may follow the lead byte of a character of four bytes. -/
def isSecondOfFour (lead b : UInt8) : Bool :=
  if lead = 0xF0 then 0x90 ≤ b && b ≤ 0xBF
  else if lead = 0xF4 then 0x80 ≤ b && b ≤ 0x8F
  else isTail b

/-- Reads what stands at the front. A broken stretch is as long as some
character's bytes agree with it, and at least one byte. -/
def scan : UInt8 → List UInt8 → Front
  | a, rest =>
    if a < 0x80 then .char (Char.ofNat a.toNat) rest
    else if 0xC2 ≤ a ∧ a ≤ 0xDF then
      match rest with
      | b :: rest' =>
        if isTail b then .char (Char.ofNat ((a.toNat - 0xC0) * 64 + tailBits b)) rest'
        else .broken rest
      | [] => .broken []
    else if 0xE0 ≤ a ∧ a ≤ 0xEF then
      match rest with
      | b :: rest' =>
        if isSecondOfThree a b then
          match rest' with
          | c :: rest'' =>
            if isTail c then
              .char (Char.ofNat ((a.toNat - 0xE0) * 4096 + tailBits b * 64 + tailBits c)) rest''
            else .broken rest'
          | [] => .broken []
        else .broken rest
      | [] => .broken []
    else if 0xF0 ≤ a ∧ a ≤ 0xF4 then
      match rest with
      | b :: rest' =>
        if isSecondOfFour a b then
          match rest' with
          | c :: rest'' =>
            if isTail c then
              match rest'' with
              | d :: rest''' =>
                if isTail d then
                  .char (Char.ofNat ((a.toNat - 0xF0) * 262144 + tailBits b * 4096 +
                    tailBits c * 64 + tailBits d)) rest'''
                else .broken rest''
              | [] => .broken []
            else .broken rest'
          | [] => .broken []
        else .broken rest
      | [] => .broken []
    else .broken rest

/-- The bytes after the front. -/
def Front.rest : Front → List UInt8
  | .char _ rest => rest
  | .broken rest => rest

theorem length_rest_scan (a : UInt8) (rest : List UInt8) :
    (scan a rest).rest.length ≤ rest.length := by
  unfold scan
  repeat' split
  all_goals
    simp only [Front.rest, List.length_cons, List.length_nil]
    omega

/-- The characters of some bytes, a broken stretch as `none`. -/
def fronts : List UInt8 → List (Option Char)
  | [] => []
  | a :: rest =>
    match _h : scan a rest with
    | .char c rest' => some c :: fronts rest'
    | .broken rest' => none :: fronts rest'
termination_by bytes => bytes.length
decreasing_by
  all_goals
    have := length_rest_scan a rest
    rw [_h] at this
    simp only [Front.rest] at this
    simp only [List.length_cons]
    omega

/-- The characters of some bytes, if no stretch of them is broken. -/
def decodeChars? (bytes : List UInt8) : Option (List Char) := (fronts bytes).mapM id

/-- The text of some bytes, if no stretch of them is broken. -/
def decode? (bytes : List UInt8) : Option String := (decodeChars? bytes).map String.ofList

/-- The text of some bytes, with one replacement character for each broken stretch. -/
def decodeLossy (bytes : List UInt8) : String :=
  String.ofList ((fronts bytes).map fun c => c.getD '\uFFFD')

end AccessBroker.Text.Utf8
