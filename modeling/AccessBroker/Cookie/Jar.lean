/-
The cookies that a request carries.

A header of cookies is plain text in which semicolons separate pairs of a name
and a value; both are trimmed and read with their bytes spelled out. A pair that
is none, or is not text when read, does not count, nor does a header with bytes
outside plain text. Of a name that comes twice the last counts.
-/
import AccessBroker.Store.Table
import AccessBroker.Text.Blank
import AccessBroker.Text.Percent

namespace AccessBroker.Cookie

/-- The value of each cookie by its name. -/
abbrev Jar := Store.Table String

/-- Whether a byte of a header is plain text: it shows, or is a space or a tab. -/
def isVisible (b : UInt8) : Bool := (0x20 ≤ b && b < 0x7F) || b = 0x09

/-- The characters of a header, if all its bytes are plain text. -/
def visible? (bytes : List UInt8) : Option (List Char) :=
  if bytes.all isVisible then some (bytes.map fun b => Char.ofNat b.toNat) else none

/-- The text that characters spell, the blank ones around them dropped. -/
def decode? (cs : List Char) : Option String :=
  Text.Percent.decode? (String.ofList (Text.trimChars cs))

/-- The name and the value in a part of a header. -/
def pair? (cs : List Char) : Option (String × String) := do
  let (name, value) ← Text.splitFirst? '=' cs
  if (Text.trimChars name).isEmpty then none
  else some (← decode? name, ← decode? value)

/-- The pairs in a header. -/
def pairs (bytes : List UInt8) : List (String × String) :=
  match visible? bytes with
  | some cs => (Text.splitAll ';' cs).filterMap pair?
  | none => []

/-- The cookies in the headers of a request. -/
def Jar.ofHeaders (values : List (List UInt8)) : Jar := .ofPairs id (values.flatMap pairs)

end AccessBroker.Cookie
