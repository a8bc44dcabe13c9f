/-
Scalars in quotes.

In single quotes a quote is written twice and nothing else is special. In
double quotes a backslash begins an escape, and at the end of a line it joins
the line with the next.
-/
import AccessBroker.Text.Number
import AccessBroker.Yaml.Gap

namespace AccessBroker.Yaml.Quoted

/-- The character that an escape of one letter stands for. -/
def escaped? (c : Char) : Option Char :=
  match c with
  | '0' => some '\x00'
  | 'a' => some '\x07'
  | 'b' => some '\x08'
  | 't' => some '\t'
  | '\t' => some '\t'
  | 'n' => some '\n'
  | 'v' => some '\x0b'
  | 'f' => some '\x0c'
  | 'r' => some '\r'
  | 'e' => some '\x1b'
  | ' ' => some ' '
  | '"' => some '"'
  | '/' => some '/'
  | '\\' => some '\\'
  | 'N' => some '\u0085'
  | '_' => some '\u00a0'
  | 'L' => some '\u2028'
  | 'P' => some '\u2029'
  | _ => none

/-- How many hexadecimal digits follow the letter of an escape by number. -/
def numberWidth? (c : Char) : Option Nat :=
  match c with
  | 'x' => some 2
  | 'u' => some 4
  | 'U' => some 8
  | _ => none

/-- The character of an escape whose letter is at a cursor, and the place after it. -/
def escape? (letter : Char) (c : Cursor) : Option (Char × Cursor) :=
  match numberWidth? letter with
  | some width =>
    let digits := c.next.rest.take width
    if digits.length < width then none
    else (Text.charNumbered? digits).map fun x => (x, c.skip (width + 1))
  | none => (escaped? letter).map fun x => (x, c.next)

/-- The characters up to a blank, a line break or the closing quote. The flag tells whether an
escaped line break ends them. -/
def run? (double : Bool) : Nat → Cursor → Option (List Char × Bool × Cursor)
  | 0, c => some ([], false, c)
  | steps + 1, c =>
    match c.rest with
    | [] => some ([], false, c)
    | ch :: rest =>
      if isBlank ch || isBreak ch then some ([], false, c)
      else if !double && ch = '\x27' then
        match rest with
        | '\x27' :: _ =>
          (run? double steps (c.skip 2)).map fun (cs, joined, after) => (ch :: cs, joined, after)
        | _ => some ([], false, c)
      else if double && ch = '"' then some ([], false, c)
      else if double && ch = '\\' then
        match rest with
        | [] => none
        | letter :: _ =>
          if isBreak letter then some ([], true, c.next.lineBreak.2)
          else do
            let (x, after) ← escape? letter c.next
            let (cs, joined, after) ← run? double steps after
            some (x :: cs, joined, after)
      else (run? double steps c.next).map fun (cs, joined, after) => (ch :: cs, joined, after)

/-- The rest of a scalar after the characters `done`, up to and with the closing quote. -/
def from? (double : Bool) : Nat → List Char → Cursor → Option (List Char × Cursor)
  | 0, _, _ => none
  | steps + 1, done, c =>
    if c.atEitherMark then none
    else do
      let (cs, joined, after) ← run? double (c.rest.length + 1) c
      let done := done ++ cs
      match after.rest with
      | [] => none
      | ch :: _ =>
        if ch = (if double then '"' else '\x27') then some (done, after.next)
        else
          let gap : Gap := if joined then .breaks [] [] else .blanks []
          let (gap, after) ← Gap.take? 0 after.rest.length gap after
          from? double steps (done ++ gap.chars) after

/-- The scalar whose opening quote is at a cursor. -/
def scan? (double : Bool) (c : Cursor) : Option (List Char × Cursor) :=
  from? double (c.rest.length + 1) [] c.next

end AccessBroker.Yaml.Quoted
