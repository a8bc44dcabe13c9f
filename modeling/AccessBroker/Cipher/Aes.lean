/-
The block cipher AES, for keys of 16, 24 and 32 bytes.

A block is four columns of four bytes. Every step of a round has its inverse
beside it: the substitution by its inverse table, the turning of the rows the
other way round, and the mixing of a column by the inverse coefficients, all
written with doubling in the field of 256 elements. A key is stretched into
one block for the start and one for each round.
-/

namespace AccessBroker.Cipher.Aes

/-- Four bytes of a block, from the top. -/
structure Column where
  a : UInt8
  b : UInt8
  c : UInt8
  d : UInt8
  deriving DecidableEq

/-- Four columns, from the left. -/
structure Block where
  p : Column
  q : Column
  r : Column
  s : Column
  deriving DecidableEq

namespace Column

/-- The column with all bytes zero. -/
def zero : Column := ⟨0, 0, 0, 0⟩

/-- The bits in which two columns differ. -/
def xor (x y : Column) : Column := ⟨x.a ^^^ y.a, x.b ^^^ y.b, x.c ^^^ y.c, x.d ^^^ y.d⟩

/-- A function applied to each byte. -/
def map (f : UInt8 → UInt8) (x : Column) : Column := ⟨f x.a, f x.b, f x.c, f x.d⟩

/-- The column with its top byte moved to the bottom. -/
def turn (x : Column) : Column := ⟨x.b, x.c, x.d, x.a⟩

/-- The bytes of a column. -/
def bytes (x : Column) : List UInt8 := [x.a, x.b, x.c, x.d]

end Column

namespace Block

/-- The block with all bytes zero. -/
def zero : Block := ⟨.zero, .zero, .zero, .zero⟩

/-- The bits in which two blocks differ. -/
def xor (x y : Block) : Block := ⟨x.p.xor y.p, x.q.xor y.q, x.r.xor y.r, x.s.xor y.s⟩

/-- A function applied to each byte. -/
def map (f : UInt8 → UInt8) (x : Block) : Block := ⟨x.p.map f, x.q.map f, x.r.map f, x.s.map f⟩

/-- The bytes of a block, column by column. -/
def bytes (x : Block) : List UInt8 := x.p.bytes ++ x.q.bytes ++ x.r.bytes ++ x.s.bytes

/-- Cuts bytes into blocks; `none` if some are left over. -/
def ofBytes? : List UInt8 → Option (List Block)
  | [] => some []
  | b0 :: b1 :: b2 :: b3 :: b4 :: b5 :: b6 :: b7 ::
      b8 :: b9 :: b10 :: b11 :: b12 :: b13 :: b14 :: b15 :: rest =>
    (ofBytes? rest).map fun blocks =>
      ⟨⟨b0, b1, b2, b3⟩, ⟨b4, b5, b6, b7⟩, ⟨b8, b9, b10, b11⟩, ⟨b12, b13, b14, b15⟩⟩ :: blocks
  | _ => none

end Block

/-! ## Substitution -/

/-- The substitution of each byte. -/
def substitution : Array UInt8 :=
  #[0x63, 0x7c, 0x77, 0x7b, 0xf2, 0x6b, 0x6f, 0xc5, 0x30, 0x01, 0x67, 0x2b,
    0xfe, 0xd7, 0xab, 0x76, 0xca, 0x82, 0xc9, 0x7d, 0xfa, 0x59, 0x47, 0xf0,
    0xad, 0xd4, 0xa2, 0xaf, 0x9c, 0xa4, 0x72, 0xc0, 0xb7, 0xfd, 0x93, 0x26,
    0x36, 0x3f, 0xf7, 0xcc, 0x34, 0xa5, 0xe5, 0xf1, 0x71, 0xd8, 0x31, 0x15,
    0x04, 0xc7, 0x23, 0xc3, 0x18, 0x96, 0x05, 0x9a, 0x07, 0x12, 0x80, 0xe2,
    0xeb, 0x27, 0xb2, 0x75, 0x09, 0x83, 0x2c, 0x1a, 0x1b, 0x6e, 0x5a, 0xa0,
    0x52, 0x3b, 0xd6, 0xb3, 0x29, 0xe3, 0x2f, 0x84, 0x53, 0xd1, 0x00, 0xed,
    0x20, 0xfc, 0xb1, 0x5b, 0x6a, 0xcb, 0xbe, 0x39, 0x4a, 0x4c, 0x58, 0xcf,
    0xd0, 0xef, 0xaa, 0xfb, 0x43, 0x4d, 0x33, 0x85, 0x45, 0xf9, 0x02, 0x7f,
    0x50, 0x3c, 0x9f, 0xa8, 0x51, 0xa3, 0x40, 0x8f, 0x92, 0x9d, 0x38, 0xf5,
    0xbc, 0xb6, 0xda, 0x21, 0x10, 0xff, 0xf3, 0xd2, 0xcd, 0x0c, 0x13, 0xec,
    0x5f, 0x97, 0x44, 0x17, 0xc4, 0xa7, 0x7e, 0x3d, 0x64, 0x5d, 0x19, 0x73,
    0x60, 0x81, 0x4f, 0xdc, 0x22, 0x2a, 0x90, 0x88, 0x46, 0xee, 0xb8, 0x14,
    0xde, 0x5e, 0x0b, 0xdb, 0xe0, 0x32, 0x3a, 0x0a, 0x49, 0x06, 0x24, 0x5c,
    0xc2, 0xd3, 0xac, 0x62, 0x91, 0x95, 0xe4, 0x79, 0xe7, 0xc8, 0x37, 0x6d,
    0x8d, 0xd5, 0x4e, 0xa9, 0x6c, 0x56, 0xf4, 0xea, 0x65, 0x7a, 0xae, 0x08,
    0xba, 0x78, 0x25, 0x2e, 0x1c, 0xa6, 0xb4, 0xc6, 0xe8, 0xdd, 0x74, 0x1f,
    0x4b, 0xbd, 0x8b, 0x8a, 0x70, 0x3e, 0xb5, 0x66, 0x48, 0x03, 0xf6, 0x0e,
    0x61, 0x35, 0x57, 0xb9, 0x86, 0xc1, 0x1d, 0x9e, 0xe1, 0xf8, 0x98, 0x11,
    0x69, 0xd9, 0x8e, 0x94, 0x9b, 0x1e, 0x87, 0xe9, 0xce, 0x55, 0x28, 0xdf,
    0x8c, 0xa1, 0x89, 0x0d, 0xbf, 0xe6, 0x42, 0x68, 0x41, 0x99, 0x2d, 0x0f,
    0xb0, 0x54, 0xbb, 0x16]

/-- The byte that the substitution takes to each byte. -/
def inverseSubstitution : Array UInt8 :=
  #[0x52, 0x09, 0x6a, 0xd5, 0x30, 0x36, 0xa5, 0x38, 0xbf, 0x40, 0xa3, 0x9e,
    0x81, 0xf3, 0xd7, 0xfb, 0x7c, 0xe3, 0x39, 0x82, 0x9b, 0x2f, 0xff, 0x87,
    0x34, 0x8e, 0x43, 0x44, 0xc4, 0xde, 0xe9, 0xcb, 0x54, 0x7b, 0x94, 0x32,
    0xa6, 0xc2, 0x23, 0x3d, 0xee, 0x4c, 0x95, 0x0b, 0x42, 0xfa, 0xc3, 0x4e,
    0x08, 0x2e, 0xa1, 0x66, 0x28, 0xd9, 0x24, 0xb2, 0x76, 0x5b, 0xa2, 0x49,
    0x6d, 0x8b, 0xd1, 0x25, 0x72, 0xf8, 0xf6, 0x64, 0x86, 0x68, 0x98, 0x16,
    0xd4, 0xa4, 0x5c, 0xcc, 0x5d, 0x65, 0xb6, 0x92, 0x6c, 0x70, 0x48, 0x50,
    0xfd, 0xed, 0xb9, 0xda, 0x5e, 0x15, 0x46, 0x57, 0xa7, 0x8d, 0x9d, 0x84,
    0x90, 0xd8, 0xab, 0x00, 0x8c, 0xbc, 0xd3, 0x0a, 0xf7, 0xe4, 0x58, 0x05,
    0xb8, 0xb3, 0x45, 0x06, 0xd0, 0x2c, 0x1e, 0x8f, 0xca, 0x3f, 0x0f, 0x02,
    0xc1, 0xaf, 0xbd, 0x03, 0x01, 0x13, 0x8a, 0x6b, 0x3a, 0x91, 0x11, 0x41,
    0x4f, 0x67, 0xdc, 0xea, 0x97, 0xf2, 0xcf, 0xce, 0xf0, 0xb4, 0xe6, 0x73,
    0x96, 0xac, 0x74, 0x22, 0xe7, 0xad, 0x35, 0x85, 0xe2, 0xf9, 0x37, 0xe8,
    0x1c, 0x75, 0xdf, 0x6e, 0x47, 0xf1, 0x1a, 0x71, 0x1d, 0x29, 0xc5, 0x89,
    0x6f, 0xb7, 0x62, 0x0e, 0xaa, 0x18, 0xbe, 0x1b, 0xfc, 0x56, 0x3e, 0x4b,
    0xc6, 0xd2, 0x79, 0x20, 0x9a, 0xdb, 0xc0, 0xfe, 0x78, 0xcd, 0x5a, 0xf4,
    0x1f, 0xdd, 0xa8, 0x33, 0x88, 0x07, 0xc7, 0x31, 0xb1, 0x12, 0x10, 0x59,
    0x27, 0x80, 0xec, 0x5f, 0x60, 0x51, 0x7f, 0xa9, 0x19, 0xb5, 0x4a, 0x0d,
    0x2d, 0xe5, 0x7a, 0x9f, 0x93, 0xc9, 0x9c, 0xef, 0xa0, 0xe0, 0x3b, 0x4d,
    0xae, 0x2a, 0xf5, 0xb0, 0xc8, 0xeb, 0xbb, 0x3c, 0x83, 0x53, 0x99, 0x61,
    0x17, 0x2b, 0x04, 0x7e, 0xba, 0x77, 0xd6, 0x26, 0xe1, 0x69, 0x14, 0x63,
    0x55, 0x21, 0x0c, 0x7d]

/-- The substitute of a byte. -/
def substitute (b : UInt8) : UInt8 := substitution.getD b.toNat 0

/-- The byte that has a substitute. -/
def unsubstitute (b : UInt8) : UInt8 := inverseSubstitution.getD b.toNat 0

/-! ## Rows -/

/-- Moves row `i` by `i` places to the left. -/
def shiftRows (x : Block) : Block :=
  ⟨⟨x.p.a, x.q.b, x.r.c, x.s.d⟩, ⟨x.q.a, x.r.b, x.s.c, x.p.d⟩, ⟨x.r.a, x.s.b, x.p.c, x.q.d⟩,
    ⟨x.s.a, x.p.b, x.q.c, x.r.d⟩⟩

/-- Moves row `i` by `i` places to the right. -/
def unshiftRows (x : Block) : Block :=
  ⟨⟨x.p.a, x.s.b, x.r.c, x.q.d⟩, ⟨x.q.a, x.p.b, x.s.c, x.r.d⟩, ⟨x.r.a, x.q.b, x.p.c, x.s.d⟩,
    ⟨x.s.a, x.r.b, x.q.c, x.p.d⟩⟩

/-! ## Columns -/

/-- Twice a byte in the field of 256 elements. -/
def double (b : UInt8) : UInt8 := (b <<< 1) ^^^ (if b &&& 0x80 = 0 then 0 else 0x1B)

/-- Three times a byte. -/
def triple (b : UInt8) : UInt8 := double b ^^^ b

/-- A byte times eight, four and two, added up with the byte as the flags say. -/
def times (eight four two one : Bool) (b : UInt8) : UInt8 :=
  (if eight then double (double (double b)) else 0) ^^^ (if four then double (double b) else 0) ^^^
    (if two then double b else 0) ^^^ (if one then b else 0)

/-- Mixes the bytes of a column. -/
def mixColumn (x : Column) : Column :=
  ⟨double x.a ^^^ triple x.b ^^^ x.c ^^^ x.d, x.a ^^^ double x.b ^^^ triple x.c ^^^ x.d,
    x.a ^^^ x.b ^^^ double x.c ^^^ triple x.d, triple x.a ^^^ x.b ^^^ x.c ^^^ double x.d⟩

/-- Nine times a byte. -/
def nine : UInt8 → UInt8 := times true false false true

/-- Eleven times a byte. -/
def eleven : UInt8 → UInt8 := times true false true true

/-- Thirteen times a byte. -/
def thirteen : UInt8 → UInt8 := times true true false true

/-- Fourteen times a byte. -/
def fourteen : UInt8 → UInt8 := times true true true false

/-- Undoes the mixing of a column. -/
def unmixColumn (x : Column) : Column :=
  ⟨fourteen x.a ^^^ eleven x.b ^^^ thirteen x.c ^^^ nine x.d,
    nine x.a ^^^ fourteen x.b ^^^ eleven x.c ^^^ thirteen x.d,
    thirteen x.a ^^^ nine x.b ^^^ fourteen x.c ^^^ eleven x.d,
    eleven x.a ^^^ thirteen x.b ^^^ nine x.c ^^^ fourteen x.d⟩

/-- Mixes each column. -/
def mixColumns (x : Block) : Block :=
  ⟨mixColumn x.p, mixColumn x.q, mixColumn x.r, mixColumn x.s⟩

/-- Undoes the mixing of each column. -/
def unmixColumns (x : Block) : Block :=
  ⟨unmixColumn x.p, unmixColumn x.q, unmixColumn x.r, unmixColumn x.s⟩

/-! ## Keys -/

/-- A stretched key: the block for the start, those for the middle rounds, and that for the last. -/
structure Schedule where
  first : Block
  middle : List Block
  last : Block
  deriving DecidableEq

/-- The columns that bytes make, four at a time. -/
def columns : List UInt8 → List Column
  | a :: b :: c :: d :: rest => ⟨a, b, c, d⟩ :: columns rest
  | _ => []

/-- The blocks that columns make, four at a time. -/
def blocks : List Column → List Block
  | p :: q :: r :: s :: rest => ⟨p, q, r, s⟩ :: blocks rest
  | _ => []

/-- The constant of a round: two to the power of the round, in the field. -/
def roundConstant : Nat → UInt8
  | 0 => 1
  | n + 1 => double (roundConstant n)

/-- Column `i` of a stretched key of `size` columns, from the columns before it, the last first. -/
def nextColumn (size i : Nat) (before : List Column) : Column :=
  let last := before.head?.getD .zero
  let mixed :=
    if i % size = 0 then
      (last.turn.map substitute).xor ⟨roundConstant (i / size - 1), 0, 0, 0⟩
    else if 6 < size ∧ i % size = 4 then last.map substitute
    else last
  (before[size - 1]?.getD .zero).xor mixed

/-- Adds `n` columns to those before them, the last first. -/
def stretch (size : Nat) : Nat → Nat → List Column → List Column
  | 0, _, before => before
  | n + 1, i, before => stretch size n (i + 1) (nextColumn size i before :: before)

/-- The stretched key of 16, 24 or 32 bytes; there is none of any other length. -/
def Schedule.ofKey? (key : List UInt8) : Option Schedule :=
  if key.length = 16 ∨ key.length = 24 ∨ key.length = 32 then
    let size := key.length / 4
    match blocks (stretch size (4 * (size + 7) - size) size (columns key).reverse).reverse with
    | first :: rest => some ⟨first, rest.dropLast, rest.getLast?.getD .zero⟩
    | [] => none
  else none

/-! ## Encryption -/

/-- A round in the middle. -/
def round (x key : Block) : Block := (mixColumns (shiftRows (x.map substitute))).xor key

/-- Undoes a round in the middle. -/
def unround (x key : Block) : Block := (unshiftRows (unmixColumns (x.xor key))).map unsubstitute

/-- Encrypts a block. -/
def encrypt (k : Schedule) (x : Block) : Block :=
  (shiftRows ((k.middle.foldl round (x.xor k.first)).map substitute)).xor k.last

/-- Decrypts a block. -/
def decrypt (k : Schedule) (x : Block) : Block :=
  (k.middle.foldr (fun key y => unround y key)
    ((unshiftRows (x.xor k.last)).map unsubstitute)).xor k.first

end AccessBroker.Cipher.Aes
