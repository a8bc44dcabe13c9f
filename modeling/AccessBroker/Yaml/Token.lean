/-
The tokens of a YAML document.

Indentation becomes tokens that open and close collections. A key is known as
one only when its colon comes: until then the place where it began is kept, and
the tokens that open a mapping are put there afterwards.
-/
import AccessBroker.Text.Percent
import AccessBroker.Yaml.Block
import AccessBroker.Yaml.Plain
import AccessBroker.Yaml.Quoted

namespace AccessBroker.Yaml

/-- One token. -/
inductive Token where
  | directive
  | documentStart
  | documentEnd
  | blockSequence
  | blockMapping
  | blockEnd
  | flowSequence
  | flowSequenceEnd
  | flowMapping
  | flowMappingEnd
  | entry
  | comma
  | key
  | value
  | alias (name : String)
  | anchor (name : String)
  | tag (name : String)
  /-- A scalar; `isPlain` tells that it stands without quotes and not in a block. -/
  | scalar (isPlain : Bool) (s : String)
  deriving DecidableEq

/-- A place where a key may have begun: how many tokens came before it, and whether only a key may
stand there. -/
structure KeyPlace where
  before : Nat
  place : Cursor
  isRequired : Bool

/-- The tokens cut so far, and what has to be known to go on. -/
structure Lexer where
  cursor : Cursor
  tokens : List Token
  /-- The column of the innermost block collection, -1 for none. -/
  column : Int
  /-- The columns of the block collections around it. -/
  outer : List Int
  /-- Where a key may have begun, innermost first, in each bracket or brace and outside. -/
  keys : List (Option KeyPlace)
  /-- Whether a key may begin next. -/
  mayBeKey : Bool

namespace Lexer

/-- Before the first token. -/
def start (cs : List Char) : Lexer := ⟨.start cs, [], -1, [], [none], true⟩

/-- Whether the cursor is inside brackets or braces. -/
def inFlow (l : Lexer) : Bool := 1 < l.keys.length

/-- The lexer with one more token and the cursor after it. -/
def add (l : Lexer) (t : Token) (after : Cursor) : Lexer :=
  { l with tokens := l.tokens ++ [t], cursor := after }

/-! ## Indentation -/

/-- Opens a block collection at a column deeper than the innermost one; its token goes in front of
the token number `before`. -/
def indentTo (l : Lexer) (column : Nat) (before : Nat) (t : Token) : Lexer :=
  if !l.inFlow && l.column < column then
    { l with
      column := column
      outer := l.column :: l.outer
      tokens := l.tokens.take before ++ t :: l.tokens.drop before }
  else l

/-- Closes block collections that are deeper than a column. -/
def closeUntil (column : Int) : List Int → Int → List Token → Int × List Int × List Token
  | outer, innermost, tokens =>
    match outer with
    | [] => (innermost, [], tokens)
    | o :: rest =>
      if column < innermost then closeUntil column rest o (tokens ++ [.blockEnd])
      else (innermost, o :: rest, tokens)

/-- The lexer outside all block collections that are deeper than a column. -/
def outdentTo (l : Lexer) (column : Int) : Lexer :=
  if l.inFlow then l
  else
    let (innermost, outer, tokens) := closeUntil column l.outer l.column l.tokens
    { l with column := innermost, outer := outer, tokens := tokens }

/-! ## Keys -/

/-- Whether a key may reach from a place to the cursor: on one line, and not over 1024 characters. -/
def reaches (l : Lexer) (k : KeyPlace) : Bool :=
  k.place.line = l.cursor.line && l.cursor.index ≤ k.place.index + 1024

/-- Forgets a place that a key can no longer reach from; there may have been no need of a key. -/
def forgetStale? (l : Lexer) (k : Option KeyPlace) : Option (Option KeyPlace) :=
  match k with
  | none => some none
  | some k => if l.reaches k then some (some k) else if k.isRequired then none else some none

/-- Forgets the innermost place where a key may have begun. -/
def forgetKey? (l : Lexer) : Option Lexer :=
  match l.keys with
  | some k :: rest => if k.isRequired then none else some { l with keys := none :: rest }
  | _ => some l

/-- Notes that a key may begin at the cursor. -/
def noteKey? (l : Lexer) : Option Lexer :=
  if l.mayBeKey then do
    let l ← l.forgetKey?
    let here : KeyPlace := ⟨l.tokens.length, l.cursor, !l.inFlow && l.column = l.cursor.column⟩
    some { l with keys := some here :: l.keys.tail }
  else some l

/-! ## Tokens -/

/-- The mark of an entry of a block sequence. -/
def entry? (l : Lexer) : Option Lexer := do
  let l ←
    if l.inFlow then some l
    else if l.mayBeKey then some (l.indentTo l.cursor.column l.tokens.length .blockSequence)
    else none
  let l ← l.forgetKey?
  some { l.add .entry l.cursor.next with mayBeKey := true }

/-- The mark of a key. -/
def key? (l : Lexer) : Option Lexer := do
  let l ←
    if l.inFlow then some l
    else if l.mayBeKey then some (l.indentTo l.cursor.column l.tokens.length .blockMapping)
    else none
  let l ← l.forgetKey?
  some { l.add .key l.cursor.next with mayBeKey := !l.inFlow }

/-- The colon between a key and its value. -/
def value? (l : Lexer) : Option Lexer :=
  match l.keys with
  | some k :: rest =>
    let l := { l with tokens := l.tokens.take k.before ++ Token.key :: l.tokens.drop k.before }
    let l := l.indentTo k.place.column k.before .blockMapping
    some { l.add .value l.cursor.next with keys := none :: rest, mayBeKey := false }
  | _ =>
    if l.inFlow then some { l.add .value l.cursor.next with mayBeKey := false }
    else if l.mayBeKey then
      let l := l.indentTo l.cursor.column l.tokens.length .blockMapping
      some { l.add .value l.cursor.next with mayBeKey := true }
    else none

/-- An opening bracket or brace. -/
def openFlow? (l : Lexer) (t : Token) : Option Lexer := do
  let l ← l.noteKey?
  some { l.add t l.cursor.next with keys := none :: l.keys, mayBeKey := true }

/-- A closing bracket or brace. -/
def closeFlow? (l : Lexer) (t : Token) : Option Lexer := do
  let l ← l.forgetKey?
  let keys := if l.inFlow then l.keys.tail else l.keys
  some { l.add t l.cursor.next with keys := keys, mayBeKey := false }

/-- A comma. -/
def comma? (l : Lexer) : Option Lexer := do
  let l ← l.forgetKey?
  some { l.add .comma l.cursor.next with mayBeKey := true }

/-- A token that may begin a key. -/
def noted? (l : Lexer) (t : Token) (after : Cursor) : Option Lexer := do
  let l ← l.noteKey?
  some { l.add t after with mayBeKey := false }

/-- A mark between documents. -/
def mark? (l : Lexer) (t : Token) : Option Lexer := do
  let l ← (l.outdentTo (-1)).forgetKey?
  some { l.add t (l.cursor.skip 3) with mayBeKey := false }

/-- A directive that gives a version of YAML. -/
def directive? (l : Lexer) : Option Lexer := do
  let l ← (l.outdentTo (-1)).forgetKey?
  let (line, after) := l.cursor.line?
  let rest ← Text.after? "%YAML".toList line
  let words := rest.takeWhile (· ≠ '#')
  if !rest.head?.any isBlank then none
  else
    let version := (words.dropWhile isBlank).reverse.dropWhile isBlank |>.reverse
    if version = "1.1".toList ∨ version = "1.2".toList then
      some { l.add .directive after with mayBeKey := false }
    else none

/-- The characters of the name of an anchor. -/
def inName (c : Char) : Bool := c.isAlphanum || c = '_' || c = '-'

/-- The name of an anchor or an alias behind its mark. -/
def name? (c : Cursor) : Option (String × Cursor) :=
  let cs := c.next.rest.takeWhile inName
  let after := c.next.skip cs.length
  if cs.isEmpty then none
  else if after.endsWord 0 || after.rest.head?.any (fun ch => "?:,]\x7d%@`".toList.contains ch) then
    some (String.ofList cs, after)
  else none

/-- The characters of a tag. -/
def inTag (c : Char) : Bool :=
  inName c || ";/?:@&=+$.%!~*\x27()".toList.contains c

/-- The text of a tag with its bytes spelled out. -/
def tagText? (cs : List Char) : Option String := Text.Percent.decode? (String.ofList cs)

/-- The full name of a tag: two marks stand for the names that YAML itself defines. -/
def tagName? : List Char → Option String
  | '!' :: '!' :: rest => if rest.isEmpty then none else tagText? ("tag:yaml.org,2002:".toList ++ rest)
  | '!' :: rest => if '!' ∈ rest then none else tagText? ('!' :: rest)
  | _ => none

/-- The tag at a cursor. -/
def tag? (inFlow : Bool) (c : Cursor) : Option (String × Cursor) := do
  let (name, after) ←
    match c.rest with
    | '!' :: '<' :: rest =>
      let cs := rest.takeWhile fun ch => inTag ch || ",[]".toList.contains ch
      match rest.drop cs.length with
      | '>' :: _ => if cs.isEmpty then none else (tagText? cs).map fun s => (s, c.skip (cs.length + 3))
      | _ => none
    | rest =>
      let cs := rest.takeWhile inTag
      (tagName? cs).map fun s => (s, c.skip cs.length)
  if after.endsWord 0 || (inFlow && after.rest.head? = some ',') then some (name, after) else none

/-- A scalar without quotes. -/
def plain? (l : Lexer) : Option Lexer := do
  let l ← l.noteKey?
  let (cs, overBreak, after) ← Plain.scan? l.inFlow (l.column + 1).toNat l.cursor
  some { l.add (.scalar true (String.ofList cs)) after with mayBeKey := overBreak }

/-- A scalar in quotes. -/
def quoted? (l : Lexer) (double : Bool) : Option Lexer := do
  let (cs, after) ← Quoted.scan? double l.cursor
  l.noted? (.scalar false (String.ofList cs)) after

/-- A scalar set off by indentation. -/
def block? (l : Lexer) (literal : Bool) : Option Lexer := do
  let l ← l.forgetKey?
  let (cs, after) ← Block.scan? literal l.column l.cursor
  some { l.add (.scalar false (String.ofList cs)) after with mayBeKey := true }

/-- Whether a plain scalar may begin with a character at a cursor. -/
def beginsPlain (inFlow : Bool) (ch : Char) (c : Cursor) : Bool :=
  !"-?:,[]\x7b\x7d#&*!|>\x27\"%@`".toList.contains ch ||
    (ch = '-' && !(c.peek? 1).any isBlank) ||
    (!inFlow && (ch = '?' || ch = ':') && !c.endsWord 1)

/-- The token that begins with a character at the cursor. -/
def token? (l : Lexer) (ch : Char) : Option Lexer :=
  let c := l.cursor
  let freeOrSpaced := l.inFlow || c.endsWord 1
  if c.column = 0 && ch = '%' then l.directive?
  else if c.atMark '-' then l.mark? .documentStart
  else if c.atMark '.' then l.mark? .documentEnd
  else if ch = '[' then l.openFlow? .flowSequence
  else if ch = '\x7b' then l.openFlow? .flowMapping
  else if ch = ']' then l.closeFlow? .flowSequenceEnd
  else if ch = '\x7d' then l.closeFlow? .flowMappingEnd
  else if ch = ',' then l.comma?
  else if ch = '-' && c.endsWord 1 then l.entry?
  else if ch = '?' && freeOrSpaced then l.key?
  else if ch = ':' && freeOrSpaced then l.value?
  else if ch = '*' then (name? c).bind fun (name, after) => l.noted? (.alias name) after
  else if ch = '&' then (name? c).bind fun (name, after) => l.noted? (.anchor name) after
  else if ch = '!' then (tag? l.inFlow c).bind fun (name, after) => l.noted? (.tag name) after
  else if ch = '|' && !l.inFlow then l.block? true
  else if ch = '>' && !l.inFlow then l.block? false
  else if ch = '\x27' then l.quoted? false
  else if ch = '"' then l.quoted? true
  else if beginsPlain l.inFlow ch c then l.plain?
  else none

/-- The lexer at the next token: blanks, comments and line breaks are passed over. Outside brackets
and braces a key may begin on a new line, and no tab may stand where one may. -/
def toNext : Nat → Lexer → Lexer
  | 0, l => l
  | steps + 1, l =>
    match l.cursor.rest with
    | [] => l
    | ch :: _ =>
      if ch = ' ' || (ch = '\t' && (l.inFlow || !l.mayBeKey)) then
        toNext steps { l with cursor := l.cursor.next }
      else if ch = '#' then toNext steps { l with cursor := l.cursor.skipComment }
      else if isBreak ch then
        toNext steps { l with cursor := l.cursor.lineBreak.2, mayBeKey := l.mayBeKey || !l.inFlow }
      else l

/-- The lexer after the last token. -/
def finish? (l : Lexer) : Option Lexer := (l.outdentTo (-1)).forgetKey?

/-- All tokens from the cursor on. -/
def run? : Nat → Lexer → Option (List Token)
  | 0, _ => none
  | steps + 1, l => do
    let l := toNext l.cursor.rest.length l
    let keys ← l.keys.mapM l.forgetStale?
    let l := { l with keys := keys }.outdentTo l.cursor.column
    match l.cursor.rest with
    | [] => (l.finish?).map (·.tokens)
    | ch :: _ =>
      let l ← l.token? ch
      run? steps l

end Lexer

/-- The tokens of a document. -/
def Token.ofChars? (cs : List Char) : Option (List Token) :=
  if cs.all isAllowed then Lexer.run? (cs.length + 1) (.start cs) else none

end AccessBroker.Yaml
