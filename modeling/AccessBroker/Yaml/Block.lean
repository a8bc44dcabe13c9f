/-
Scalars set off by indentation.

After a bar the lines count as they stand; after an angle bracket they are
joined, unless a line begins with a blank. A sign says what becomes of the line
breaks at the end, a digit how deep the lines are indented.
-/
import AccessBroker.Yaml.Cursor

namespace AccessBroker.Yaml.Block

/-- What becomes of the line breaks at the end: all go, one stays, all stay. -/
inductive Ending where
  | strip
  | clip
  | keep
  deriving DecidableEq

/-- What stands behind the bar or angle bracket: the ending and the depth, if a digit gives it. -/
structure Header where
  ending : Ending
  depth : Option Nat

/-- The ending that a sign asks for. -/
def ending? (c : Char) : Option Ending :=
  match c with
  | '+' => some .keep
  | '-' => some .strip
  | _ => none

/-- The depth that a digit gives; zero is none. -/
def depth? (c : Char) : Option Nat :=
  if '0' ≤ c ∧ c ≤ '9' then some (c.toNat - '0'.toNat) else none

/-- The header at a cursor, the sign and the digit in either order. -/
def header? (c : Cursor) : Option (Header × Cursor) :=
  let ending (n : Nat) := (c.peek? n).bind ending?
  let depth (n : Nat) := (c.peek? n).bind depth?
  let found : Header × Cursor :=
    match ending 0, depth 0 with
    | some e, _ =>
      match depth 1 with
      | some d => (⟨e, some d⟩, c.skip 2)
      | none => (⟨e, none⟩, c.next)
    | none, some d =>
      match ending 1 with
      | some e => (⟨e, some d⟩, c.skip 2)
      | none => (⟨.clip, some d⟩, c.next)
    | none, none => (⟨.clip, none⟩, c)
  if found.1.depth = some 0 then none else some found

/-- The line breaks in front of the next line, and the place in that line after its indentation. The
greatest column met is kept; without a depth, it becomes the depth. -/
def breaks? (depth : Option Nat) :
    Nat → Nat → List Char → Cursor → Option (List Char × Nat × Cursor)
  | 0, deepest, done, c => some (done, deepest, c)
  | steps + 1, deepest, done, c =>
    let isIndent := depth.all (c.column < ·)
    match c.rest with
    | [] => some (done, max deepest c.column, c)
    | ch :: _ =>
      if ch = ' ' ∧ isIndent then breaks? depth steps deepest done c.next
      else if ch = '\t' ∧ isIndent then none
      else if isBreak ch then
        let (br, after) := c.lineBreak
        breaks? depth steps (max deepest c.column) (done ++ br) after
      else some (done, max deepest c.column, c)

/-- What is known between two lines of a scalar: the text so far, the break that ended the last line,
the breaks of empty lines after it, and whether the last line began with a blank. -/
structure Lines where
  done : List Char
  last : List Char
  more : List Char
  afterBlank : Bool

/-- The text so far with what stands between two lines. -/
def Lines.joined (literal : Bool) (nextIsBlank : Bool) (s : Lines) : List Char :=
  if !literal && s.last = ['\n'] && !s.afterBlank && !nextIsBlank then
    if s.more.isEmpty then s.done ++ [' '] else s.done ++ s.more
  else s.done ++ s.last ++ s.more

/-- The lines from a cursor on, all as deep as the scalar. -/
def lines? (literal : Bool) (depth : Nat) : Nat → Lines → Cursor → Option (Lines × Cursor)
  | 0, s, c => some (s, c)
  | steps + 1, s, c =>
    match c.rest with
    | [] => some (s, c)
    | ch :: _ =>
      if c.column ≠ depth then some (s, c)
      else do
        let before := s.joined literal (isBlank ch)
        let (cs, after) := c.line?
        let (last, after) := after.lineBreak
        let (more, _, after) ← breaks? (some depth) after.rest.length 0 [] after
        lines? literal depth steps ⟨before ++ cs, last, more, isBlank ch⟩ after

/-- The text of a scalar with its ending. -/
def Lines.ended (ending : Ending) (s : Lines) : List Char :=
  match ending with
  | .strip => s.done
  | .clip => s.done ++ s.last
  | .keep => s.done ++ s.last ++ s.more

/-- The scalar whose bar or angle bracket is at a cursor, within a collection at column `outer`. -/
def scan? (literal : Bool) (outer : Int) (c : Cursor) : Option (List Char × Cursor) := do
  let (header, c) ← header? c.next
  let c := c.skipBlanks.skipComment
  if !c.atLineEnd then none
  else
    let start := c.lineBreak.2
    let base := max outer 0
    let depth := header.depth.map fun d => (base + d).toNat
    let (more, deepest, start) ← breaks? depth start.rest.length 0 [] start
    let depth := depth.getD (max deepest (max (outer + 1) 1).toNat)
    let (s, after) ← lines? literal depth start.rest.length ⟨[], [], more, false⟩ start
    some (s.ended header.ending, after)

end AccessBroker.Yaml.Block
