/-
Scalars without quotes.

A plain scalar ends before a colon that a blank follows, before a comment, and
before a line that is indented no deeper than what holds it; inside brackets
and braces also before a comma and any of these.
-/
import AccessBroker.Yaml.Gap

namespace AccessBroker.Yaml.Plain

/-- Whether a character delimits the parts of a collection in brackets or braces. -/
def isDelimiter (c : Char) : Bool := ",[]\x7b\x7d".toList.contains c

/-- Whether a plain scalar ends at a cursor that stands at `ch`. -/
def ends (inFlow : Bool) (ch : Char) (c : Cursor) : Bool :=
  (ch = ':' && c.endsWord 1) || (inFlow && isDelimiter ch)

/-- Whether a colon inside brackets runs into a delimiter. -/
def colonRunsOn (inFlow : Bool) (ch : Char) (c : Cursor) : Bool :=
  inFlow && ch = ':' &&
    match c.peek? 1 with
    | some d => isDelimiter d || d = '?'
    | none => false

/-- The characters up to a blank, a line break or the end of the scalar. -/
def run? (inFlow : Bool) : Nat → Cursor → Option (List Char × Cursor)
  | 0, c => some ([], c)
  | steps + 1, c =>
    match c.rest with
    | [] => some ([], c)
    | ch :: _ =>
      if isBlank ch || isBreak ch then some ([], c)
      else if colonRunsOn inFlow ch c then none
      else if ends inFlow ch c then some ([], c)
      else (run? inFlow steps c.next).map fun (cs, after) => (ch :: cs, after)

/-- The rest of a scalar after the characters `done` and a gap. The flag tells whether line breaks
stand between the scalar and the place after it. -/
def from? (inFlow : Bool) (floor : Nat) :
    Nat → List Char → Gap → Cursor → Option (List Char × Bool × Cursor)
  | 0, done, gap, c => some (done, gap.isBreaks, c)
  | steps + 1, done, gap, c =>
    if c.atEitherMark || c.rest.head? = some '#' then some (done, gap.isBreaks, c)
    else do
      let (cs, after) ← run? inFlow c.rest.length c
      let (done, gap) := if cs.isEmpty then (done, gap) else (done ++ gap.chars ++ cs, .blanks [])
      if cs.isEmpty || !after.endsWord 0 || after.rest.isEmpty then some (done, gap.isBreaks, after)
      else
        let (gap, after) ← Gap.take? floor after.rest.length gap after
        if !inFlow && after.column < floor then some (done, gap.isBreaks, after)
        else from? inFlow floor steps done gap after

/-- The plain scalar at a cursor. -/
def scan? (inFlow : Bool) (floor : Nat) (c : Cursor) : Option (List Char × Bool × Cursor) :=
  from? inFlow floor c.rest.length [] (.blanks []) c

end AccessBroker.Yaml.Plain
