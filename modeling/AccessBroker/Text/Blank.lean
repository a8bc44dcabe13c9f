/-
Blank characters and trimming.

A character is blank when Unicode gives it the `White_Space` property. Every
text an operator or a client hands in is trimmed by this one rule: network
blocks, origins, item names, secrets given by reference, cookie parts. The
class is wider than core's `Char.isWhitespace`.
-/

namespace AccessBroker.Text

/-- The characters with the Unicode property `White_Space`. -/
def isBlank (c : Char) : Bool :=
  let n := c.toNat
  (0x09 ≤ n && n ≤ 0x0D) || n == 0x20 || n == 0x85 || n == 0xA0 || n == 0x1680 ||
    (0x2000 ≤ n && n ≤ 0x200A) || n == 0x2028 || n == 0x2029 || n == 0x202F || n == 0x205F ||
    n == 0x3000

/-- The characters left when the blank ones at the front are dropped. -/
def trimStart (cs : List Char) : List Char := cs.dropWhile isBlank

/-- The characters left when the blank ones at the back are dropped. -/
def trimEnd (cs : List Char) : List Char := (cs.reverse.dropWhile isBlank).reverse

/-- The characters between the blank ones at either end. -/
def trimChars (cs : List Char) : List Char := trimEnd (trimStart cs)

/-- A text without the blank characters at either end. -/
def trim (s : String) : String := String.ofList (trimChars s.toList)

/-- Whether a text holds no character that shows. -/
def isBlankText (s : String) : Bool := s.toList.all isBlank

@[simp] theorem toList_trim (s : String) : (trim s).toList = trimChars s.toList := by
  simp [trim]

end AccessBroker.Text
