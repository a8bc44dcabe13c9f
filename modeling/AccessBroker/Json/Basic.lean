/-
JSON values and their written form.

A whole number within 64 bits is kept exactly; every other number is a binary
floating number. The members of an object stand in the order in which they
were written, a name that is written twice included; `normal` keeps the last of
each name and puts the names in order.
-/
import AccessBroker.Decimal.Binary64
import AccessBroker.Json.Quoted
import AccessBroker.Store.Ordered

namespace AccessBroker

/-- A JSON value. -/
inductive Json where
  | null
  | bool (b : Bool)
  | whole (n : Int)
  | float (x : Binary64)
  | text (s : String)
  | array (elements : List Json)
  | object (members : List (String × Json))

namespace Json

/-- The value of the first member with a name. -/
def field? (name : String) : Json → Option Json
  | object members => members.lookup name
  | _ => none

/-- A number that is not negative. -/
def ofNat (n : Nat) : Json := whole n

/-- A number of 64 bits. -/
def ofWord (n : UInt64) : Json := ofNat n.toNat

/-- A value or null. -/
def ofOption {α : Type} (toJson : α → Json) : Option α → Json
  | some a => toJson a
  | none => null

/-! ## Order of names -/

mutual

/-- A value whose objects hold each name once, in order. -/
def normal : Json → Json
  | array elements => array (normalList elements)
  | object members => object (Store.inOrder (normalMembers members))
  | j => j

/-- Each of some values in normal form. -/
def normalList : List Json → List Json
  | [] => []
  | j :: rest => normal j :: normalList rest

/-- Each value of some members in normal form. -/
def normalMembers : List (String × Json) → List (String × Json)
  | [] => []
  | (name, j) :: rest => (name, normal j) :: normalMembers rest

end

/-! ## Writing -/

mutual

/-- The characters of a value, without blanks. -/
def chars : Json → List Char
  | null => "null".toList
  | bool true => "true".toList
  | bool false => "false".toList
  | whole n => (Text.intText n).toList
  | float x => x.scientificText.toList
  | text s => quoteChars s
  | array elements => '[' :: elementChars elements ++ [']']
  | object members => '\x7b' :: memberChars members ++ ['\x7d']

/-- Values with commas between them. -/
def elementChars : List Json → List Char
  | [] => []
  | [j] => chars j
  | j :: rest => chars j ++ ',' :: elementChars rest

/-- Members with commas between them. -/
def memberChars : List (String × Json) → List Char
  | [] => []
  | [(name, j)] => quoteChars name ++ ':' :: chars j
  | (name, j) :: rest => quoteChars name ++ ':' :: chars j ++ ',' :: memberChars rest

end

/-- The written form of a value. -/
def write (j : Json) : String := String.ofList j.chars

end Json

end AccessBroker
