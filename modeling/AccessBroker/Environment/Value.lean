/-
The data that the text of an environment variable stands for.

`true`, `false`, a number, a text in double quotes, a character in single
quotes, a list in square brackets and a table in braces are what they look
like; a text that as a whole has none of these forms stands for itself.
-/
import AccessBroker.Datum.Basic
import AccessBroker.Store.Table
import AccessBroker.Text.Blank

namespace AccessBroker.Environment

/-- The blanks that may stand around a value. -/
def isSpace (c : Char) : Bool := c = ' ' || c = '\t' || c = '\n' || c = '\r' || c.toNat = 0x0C

/-- The characters that end an unquoted value. -/
def endsValue (c : Char) : Bool := ",\x7b\x7d[]".toList.contains c

/-- The characters of an unquoted key. -/
def inKey (c : Char) : Bool := c.isAlphanum || c = '_' || c = '-'

/-- Drops the blanks at the front. -/
def skipSpaces (cs : List Char) : List Char := cs.dropWhile isSpace

/-! ## Quoted text -/

/-- The character that stands for itself behind a backslash, or for a control character. -/
def escaped? (c : Char) : Option Char :=
  match c with
  | '"' => some '"'
  | '\\' => some '\\'
  | 'b' => some '\x08'
  | 'f' => some '\x0c'
  | 'n' => some '\n'
  | 'r' => some '\r'
  | 't' => some '\t'
  | _ => none

/-- Whether a character may stand in a quoted text as it is. -/
def isPlain (c : Char) : Bool := c = '\t' || (0x20 ≤ c.toNat && c.toNat ≠ 0x7F)

/-- The text up to the closing quote, and the characters after it. -/
def quoted? : List Char → Option (List Char × List Char)
  | [] => none
  | '"' :: rest => some ([], rest)
  | '\\' :: 'u' :: a :: b :: c :: d :: rest => do
    let x ← Text.charNumbered? [a, b, c, d]
    let (s, after) ← quoted? rest
    some (x :: s, after)
  | '\\' :: 'U' :: a :: b :: c :: d :: e :: f :: g :: h :: rest => do
    let x ← Text.charNumbered? [a, b, c, d, e, f, g, h]
    let (s, after) ← quoted? rest
    some (x :: s, after)
  | '\\' :: c :: rest => do
    let x ← escaped? c
    let (s, after) ← quoted? rest
    some (x :: s, after)
  | c :: rest => do
    if isPlain c then
      let (s, after) ← quoted? rest
      some (c :: s, after)
    else none

/-! ## Values -/

/-- A whole number of 64 bits, with or without a sign. -/
def whole? (cs : List Char) : Option Int :=
  match Text.readNat (Nat.pow 2 64 - 1) cs with
  | .ok n => some n
  | .error _ =>
    match cs with
    | '-' :: rest =>
      match Text.readNat (Nat.pow 2 63) rest, rest with
      | .ok n, c :: _ => if c = '+' then none else some (-n)
      | _, _ => none
    | _ => none

/-- The data of an unquoted value. -/
def bare (cs : List Char) : Datum :=
  let cs := Text.trimChars cs
  match if '.' ∈ cs then Decimal.Spelling.ofChars? cs else none with
  | some x => .ofSpelling x
  | none =>
    match whole? cs with
    | some n => .whole n
    | none => .text (String.ofList cs)

/-- A key, quoted or not, and the characters after it. -/
def key? : List Char → Option (String × List Char)
  | '"' :: rest => (quoted? rest).map fun (s, after) => (String.ofList s, after)
  | cs =>
    match cs.takeWhile inKey with
    | [] => none
    | name => some (String.ofList name, cs.dropWhile inKey)

mutual

/-- The value at the front, the blanks around it included, and the characters after it. -/
def value? : Nat → List Char → Option (Datum × List Char)
  | 0, _ => none
  | steps + 1, cs => do
    let (d, after) ← core? steps (skipSpaces cs)
    some (d, skipSpaces after)

/-- The value at the front. -/
def core? (steps : Nat) (cs : List Char) : Option (Datum × List Char) :=
  match cs with
  | 't' :: 'r' :: 'u' :: 'e' :: rest => some (.bool true, rest)
  | 'f' :: 'a' :: 'l' :: 's' :: 'e' :: rest => some (.bool false, rest)
  | '\x7b' :: rest => (entries? steps [] rest).map fun (es, after) => (.table es, after)
  | '[' :: rest => (elements? steps rest).map fun (ds, after) => (.list ds, after)
  | '"' :: rest => (quoted? rest).map fun (s, after) => (.text (String.ofList s), after)
  | '\x27' :: c :: '\x27' :: rest => some (.char c, rest)
  | '\x27' :: _ => none
  | cs => some (bare (cs.takeWhile (!endsValue ·)), cs.dropWhile (!endsValue ·))

/-- The elements of a list up to its bracket; a comma may stand behind the last. -/
def elements? : Nat → List Char → Option (List Datum × List Char)
  | _, ']' :: rest => some ([], rest)
  | 0, _ => none
  | steps + 1, cs => do
    let (d, after) ← value? steps cs
    match after with
    | ',' :: rest =>
      let (ds, after) ← elements? steps rest
      some (d :: ds, after)
    | ']' :: rest => some ([d], rest)
    | _ => none

/-- The entries of a table up to its brace, after those already read; a comma may stand behind the
last. -/
def entries? : Nat → List (String × Datum) → List Char → Option (List (String × Datum) × List Char)
  | _, done, '\x7d' :: rest => some (done, rest)
  | 0, _, _ => none
  | steps + 1, done, cs => do
    let (key, cs) ← key? (skipSpaces cs)
    match skipSpaces cs with
    | '=' :: cs =>
      let (d, after) ← value? steps cs
      match after with
      | ',' :: rest => entries? steps (Store.Table.put key d done) rest
      | '\x7d' :: rest => some (Store.Table.put key d done, rest)
      | _ => none
    | _ => none

end

/-- The data that the text of a variable stands for. -/
def valueOf (s : String) : Datum :=
  match value? (2 * s.length + 2) s.toList with
  | some (d, []) => d
  | _ => .text s

end AccessBroker.Environment
