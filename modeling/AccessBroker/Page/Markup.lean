/-
Text inside pages.

Five characters that mean something in a page are written as entities, and
`decode` reads these entities back. Inside a script, JSON is written with the
characters that could end the script, or a line of it, as escapes of JSON.
-/
import AccessBroker.Json.Basic

namespace AccessBroker.Page

/-- One character as it is written in a page. -/
def escapeChar (c : Char) : List Char :=
  match c with
  | '&' => "&amp;".toList
  | '<' => "&lt;".toList
  | '>' => "&gt;".toList
  | '"' => "&quot;".toList
  | '\x27' => "&#x27;".toList
  | c => [c]

/-- A text as it is written in a page. -/
def escape (s : String) : String := String.ofList (s.toList.flatMap escapeChar)

/-- The characters that are written, with each entity in the place of its character. -/
def decode : List Char → List Char
  | '&' :: 'a' :: 'm' :: 'p' :: ';' :: rest => '&' :: decode rest
  | '&' :: 'l' :: 't' :: ';' :: rest => '<' :: decode rest
  | '&' :: 'g' :: 't' :: ';' :: rest => '>' :: decode rest
  | '&' :: 'q' :: 'u' :: 'o' :: 't' :: ';' :: rest => '"' :: decode rest
  | '&' :: '#' :: 'x' :: '2' :: '7' :: ';' :: rest => '\x27' :: decode rest
  | c :: rest => c :: decode rest
  | [] => []

/-- Whether a character could end a script or a line of it. -/
def endsScript (c : Char) : Bool :=
  c = '<' || c = '>' || c = '&' || c.toNat = 0x2028 || c.toNat = 0x2029

/-- JSON as it is written inside a script. -/
def scriptChars (j : Json) : List Char :=
  j.chars.flatMap fun c => if endsScript c then Json.unicodeEscape c.toNat else [c]

/-- JSON as it is written inside a script. -/
def script (j : Json) : String := String.ofList (scriptChars j)

end AccessBroker.Page
