/-
Data of configuration documents.

Whatever way a setting is written, in a document, in the environment or in
JSON, it comes down to one of a few kinds of data.
-/
import AccessBroker.Decimal.Reading
import AccessBroker.Json.Basic

namespace AccessBroker

/-- A piece of data; a table holds each key once. -/
inductive Datum where
  | null
  | bool (b : Bool)
  | whole (n : Int)
  | float (x : Binary64)
  /-- A number past the largest floating number. -/
  | infinite (negative : Bool)
  /-- A floating value that is no number. -/
  | notNumber
  | char (c : Char)
  | text (s : String)
  | list (elements : List Datum)
  | table (entries : List (String × Datum))

namespace Datum

/-- The data that a decimal spelling stands for. -/
def ofSpelling : Decimal.Spelling → Datum
  | .finite x => float x
  | .infinite negative => infinite negative

mutual

/-- The data that a JSON value stands for; of a name written twice the last counts. -/
def ofJson : Json → Datum
  | .null => null
  | .bool b => bool b
  | .whole n => whole n
  | .float x => float x
  | .text s => text s
  | .array elements => list (ofJsonList elements)
  | .object members => table (Store.inOrder (ofJsonMembers members))

/-- The data that JSON values stand for. -/
def ofJsonList : List Json → List Datum
  | [] => []
  | j :: rest => ofJson j :: ofJsonList rest

/-- The entries that members stand for. -/
def ofJsonMembers : List (String × Json) → List (String × Datum)
  | [] => []
  | (name, j) :: rest => (name, ofJson j) :: ofJsonMembers rest

end

end Datum

end AccessBroker
