/-
A place in a YAML document.

A cursor knows the characters still to come, how many went before, and the line
and column it stands at; indentation is a matter of columns.
-/

namespace AccessBroker.Yaml

/-- Whether a character separates words on a line. -/
def isBlank (c : Char) : Bool := c = ' ' || c = '\t'

/-- Whether a character ends a line. -/
def isBreak (c : Char) : Bool :=
  c = '\n' || c = '\r' || c.toNat = 0x85 || c.toNat = 0x2028 || c.toNat = 0x2029

/-- Whether a character may stand in a document. -/
def isAllowed (c : Char) : Bool :=
  let n := c.toNat
  n = 0x09 || n = 0x0A || n = 0x0D || (0x20 ≤ n && n ≤ 0x7E) || n = 0x85 ||
    (0xA0 ≤ n && n ≤ 0xD7FF) || (0xE000 ≤ n && n ≤ 0xFFFD) || 0x10000 ≤ n

/-- The characters to come, and where they begin. -/
structure Cursor where
  rest : List Char
  index : Nat
  line : Nat
  column : Nat

namespace Cursor

/-- The beginning of a document; a mark of byte order in front takes a column and counts for nothing
else. -/
def start : List Char → Cursor
  | '\ufeff' :: cs => ⟨cs, 1, 0, 1⟩
  | cs => ⟨cs, 0, 0, 0⟩

/-- The place after the next character of a line. -/
def next (c : Cursor) : Cursor := ⟨c.rest.tail, c.index + 1, c.line, c.column + 1⟩

/-- The place after some characters of a line. -/
def skip (c : Cursor) (n : Nat) : Cursor := ⟨c.rest.drop n, c.index + n, c.line, c.column + n⟩

/-- The character a given number of places further on. -/
def peek? (c : Cursor) (n : Nat) : Option Char := c.rest[n]?

/-- Whether a blank, a line break or the end comes a given number of places further on. -/
def endsWord (c : Cursor) (n : Nat) : Bool :=
  match c.peek? n with
  | some ch => isBlank ch || isBreak ch
  | none => true

/-- Whether a line break or the end comes next. -/
def atLineEnd (c : Cursor) : Bool :=
  match c.rest with
  | ch :: _ => isBreak ch
  | [] => true

/-- The next line break as it counts in a text, and the place after it. -/
def lineBreak (c : Cursor) : List Char × Cursor :=
  match c.rest with
  | '\r' :: '\n' :: rest => (['\n'], ⟨rest, c.index + 2, c.line + 1, 0⟩)
  | ch :: rest =>
    ([if ch.toNat = 0x2028 ∨ ch.toNat = 0x2029 then ch else '\n'], ⟨rest, c.index + 1, c.line + 1, 0⟩)
  | [] => ([], c)

/-- Whether the mark between two documents, three hyphens or three points, stands at a cursor. -/
def atMark (c : Cursor) (mark : Char) : Bool :=
  c.column = 0 && c.rest.take 3 = [mark, mark, mark] && c.endsWord 3

/-- Whether either mark between documents stands at a cursor. -/
def atEitherMark (c : Cursor) : Bool := c.atMark '-' || c.atMark '.'

/-- The place after the blanks of a line. -/
def skipBlanks (c : Cursor) : Cursor := c.skip (c.rest.takeWhile isBlank).length

/-- The characters up to the end of the line, and the place after them. -/
def line? (c : Cursor) : List Char × Cursor :=
  let cs := c.rest.takeWhile (!isBreak ·)
  (cs, c.skip cs.length)

/-- The place after a comment, if there is one. -/
def skipComment (c : Cursor) : Cursor :=
  match c.rest with
  | '#' :: _ => c.line?.2
  | _ => c

end Cursor

end AccessBroker.Yaml
