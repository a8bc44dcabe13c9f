/-
Quoted text in JSON.

`escape` writes a quote, a backslash and every control character as an escape
and all else as it stands. `unescape?` reads every escape there is: it joins
two escaped halves of a character beyond the first plane, and refuses half of
one alone.
-/
import AccessBroker.Text.Number
import AccessBroker.Text.Utf8

namespace AccessBroker.Json

/-- A hexadecimal digit in lower case. -/
def hexDigit (n : Nat) : Char := Nat.digitChar n

/-- Four hexadecimal digits after `\u`. -/
def unicodeEscape (n : Nat) : List Char :=
  ['\\', 'u', hexDigit (n / 4096 % 16), hexDigit (n / 256 % 16), hexDigit (n / 16 % 16),
    hexDigit (n % 16)]

/-- One character inside quotes. -/
def escapeChar (c : Char) : List Char :=
  match c with
  | '"' => ['\\', '"']
  | '\\' => ['\\', '\\']
  | '\x08' => ['\\', 'b']
  | '\x0c' => ['\\', 'f']
  | '\n' => ['\\', 'n']
  | '\r' => ['\\', 'r']
  | '\t' => ['\\', 't']
  | c => if c.toNat < 0x20 then unicodeEscape c.toNat else [c]

/-- The inside of a quoted text. -/
def escape (cs : List Char) : List Char := cs.flatMap escapeChar

/-- A text in quotes. -/
def quoteChars (s : String) : List Char := '"' :: escape s.toList ++ ['"']

/-- The value of four hexadecimal digits. -/
def hexFour? (a b c d : Char) : Option Nat := do
  some ((((← Text.hexDigit? a) * 16 + (← Text.hexDigit? b)) * 16 + (← Text.hexDigit? c)) * 16 +
    (← Text.hexDigit? d))

/-- The character after a backslash, if one character stands for another. -/
def shortEscape? : Char → Option Char
  | '"' => some '"'
  | '\\' => some '\\'
  | '/' => some '/'
  | 'b' => some '\x08'
  | 'f' => some '\x0c'
  | 'n' => some '\n'
  | 'r' => some '\r'
  | 't' => some '\t'
  | _ => none

/-- The character that two halves of 16 bits make. -/
def joinHalves (high low : Nat) : Char :=
  Char.ofNat (0x10000 + (high - 0xD800) * 0x400 + (low - 0xDC00))

/-- Reads the inside of a quoted text. -/
def unescape? : List Char → Option (List Char)
  | [] => some []
  | '\\' :: 'u' :: a :: b :: c :: d :: rest =>
    match hexFour? a b c d with
    | none => none
    | some n =>
      if 0xD800 ≤ n ∧ n ≤ 0xDBFF then
        match rest with
        | '\\' :: 'u' :: a :: b :: c :: d :: rest =>
          match hexFour? a b c d with
          | none => none
          | some m =>
            if 0xDC00 ≤ m ∧ m ≤ 0xDFFF then (unescape? rest).map (joinHalves n m :: ·) else none
        | _ => none
      else if 0xDC00 ≤ n ∧ n ≤ 0xDFFF then none
      else (unescape? rest).map (Char.ofNat n :: ·)
  | '\\' :: c :: rest =>
    match shortEscape? c with
    | some d => (unescape? rest).map (d :: ·)
    | none => none
  | ['\\'] => none
  | c :: rest => (unescape? rest).map (c :: ·)

/-- The text between two quotes, given as bytes. -/
def unquote? (bytes : List UInt8) : Option String := do
  let cs ← Text.Utf8.decodeChars? bytes
  (unescape? cs).map String.ofList

end AccessBroker.Json
