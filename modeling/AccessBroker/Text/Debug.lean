/-
Text quoted for a reader of messages.

A text stands in double quotes. A quote, a backslash and the three usual
control characters are escaped by a letter, zero by a digit, and every other
character that does not show by itself is spelled by its number.
-/
import AccessBroker.Text.Hidden

namespace AccessBroker.Text

/-- One character inside quotes. -/
def debugChar (c : Char) : List Char :=
  match c with
  | '\x00' => ['\\', '0']
  | '\t' => ['\\', 't']
  | '\r' => ['\\', 'r']
  | '\n' => ['\\', 'n']
  | '\\' => ['\\', '\\']
  | '"' => ['\\', '"']
  | c => if isHidden c then "\\u\x7b".toList ++ Nat.toDigits 16 c.toNat ++ ['\x7d'] else [c]

/-- A text in quotes in which every character shows. -/
def debug (s : String) : String := String.ofList ('"' :: s.toList.flatMap debugChar ++ ['"'])

/-- A single character in quotes, which a quote of the other kind need not be escaped in. -/
def debugCharText (c : Char) : String :=
  let inside :=
    if c = '"' then ['"'] else if c = '\x27' then ['\\', '\x27'] else debugChar c
  String.ofList ('\x27' :: inside ++ ['\x27'])

end AccessBroker.Text
