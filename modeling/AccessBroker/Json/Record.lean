/-
Records in JSON.

A record of known fields is written as an object, or as an array of its fields
in their order. In an object a known field stands once; a field that is not
known is passed over, and in a tree nothing of its value is looked at.
-/
import AccessBroker.Json.Value

namespace AccessBroker.Json

namespace Record

/-- The only value given to a name; `none` if the name is given twice. -/
def once? {α : Type} (name : String) (members : List (String × α)) : Option (Option α) :=
  match members.filter fun m => m.1 = name with
  | [] => some none
  | [m] => some (some m.2)
  | _ => none

/-- What the members give to each of the known names; `none` if one is given twice. -/
def fields? {α : Type} (names : List String) (members : List (String × α)) :
    Option (List (Option α)) :=
  names.mapM fun name => once? name members

/-- What an array gives to each of the known names, in order; `none` if it holds more. -/
def inOrder? {α : Type} (names : List String) (elements : List α) : Option (List (Option α)) :=
  if elements.length ≤ names.length then
    some (elements.map some ++ List.replicate (names.length - elements.length) none)
  else none

/-- What a value gives to each of the known names. -/
def ofJson? (names : List String) : Json → Option (List (Option Json))
  | .object members => fields? names members
  | .array elements => inOrder? names elements
  | _ => none

/-- What a tree gives to each of the known names. -/
def ofTree? (names : List String) : Tree → Option (List (Option Tree))
  | .object members => do
    let members ← members.mapM fun (name, t) => (unquote? name).map fun name => (name, t)
    fields? names members
  | .array elements => inOrder? names elements
  | _ => none

end Record

namespace Tree

/-- The text of a quoted text. -/
def text? : Tree → Option String
  | quoted s => unquote? s
  | _ => none

/-- A truth value. -/
def bool? : Tree → Option Bool
  | bool b => some b
  | _ => none

end Tree

end AccessBroker.Json
