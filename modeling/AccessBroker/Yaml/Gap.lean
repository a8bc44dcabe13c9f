/-
What stands between two parts of a scalar.

Blanks within a line count as they stand. A single line break counts as one
space; of several the first is dropped. Blanks around line breaks do not count.
-/
import AccessBroker.Yaml.Cursor

namespace AccessBroker.Yaml

/-- Blanks within a line, or line breaks. -/
inductive Gap where
  | blanks (cs : List Char)
  | breaks (first more : List Char)

namespace Gap

/-- The characters that a gap counts for. -/
def chars : Gap → List Char
  | blanks cs => cs
  | breaks first more => if first = ['\n'] then (if more.isEmpty then [' '] else more) else first ++ more

/-- Whether a gap goes over a line break. -/
def isBreaks : Gap → Bool
  | blanks _ => false
  | breaks _ _ => true

/-- Takes the blanks and line breaks at a cursor into a gap. In front of the column `floor` of a new
line no tab may stand. -/
def take? (floor : Nat) : Nat → Gap → Cursor → Option (Gap × Cursor)
  | 0, g, c => some (g, c)
  | steps + 1, g, c =>
    match c.rest with
    | [] => some (g, c)
    | ch :: _ =>
      if isBlank ch then
        match g with
        | blanks cs => take? floor steps (blanks (cs ++ [ch])) c.next
        | breaks _ _ => if ch = '\t' ∧ c.column < floor then none else take? floor steps g c.next
      else if isBreak ch then
        let (br, after) := c.lineBreak
        match g with
        | blanks _ => take? floor steps (breaks br []) after
        | breaks first more => take? floor steps (breaks first (more ++ br)) after
      else some (g, c)

end Gap

end AccessBroker.Yaml
