/-
Entries in the order of their keys.

`inOrder` keeps the last entry of each key, and puts the keys in the order of
their characters.
-/

namespace AccessBroker.Store

variable {α : Type}

/-- Puts an entry among entries in order, in the place of one with the same key. -/
def insertInOrder (key : String) (v : α) : List (String × α) → List (String × α)
  | [] => [(key, v)]
  | (k, w) :: rest =>
    if key = k then (key, v) :: rest
    else if key < k then (key, v) :: (k, w) :: rest
    else (k, w) :: insertInOrder key v rest

/-- Entries in the order of their keys, the last of each key. -/
def inOrder (entries : List (String × α)) : List (String × α) :=
  entries.foldl (fun done (key, v) => insertInOrder key v done) []

end AccessBroker.Store
