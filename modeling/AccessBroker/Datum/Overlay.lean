/-
Data laid over other data.

Where two tables meet, their entries are laid over each other key by key;
anything else hides what is below it.
-/
import AccessBroker.Datum.Basic
import AccessBroker.Store.Table

namespace AccessBroker.Datum

mutual

/-- What is seen of data laid over other data. -/
def overlay : Datum → Datum → Datum
  | table above, table below => table (overlayEntries above below)
  | d, _ => d

/-- What is seen of entries laid over other entries. -/
def overlayEntries : List (String × Datum) → List (String × Datum) → List (String × Datum)
  | [], below => below
  | (key, d) :: rest, below =>
    let seen :=
      match below.lookup key with
      | some hidden => overlay d hidden
      | none => d
    overlayEntries rest (Store.Table.put key seen below)

end

/-- The data at the end of a path of keys; the elements of a list count as its keys. -/
def at? : List String → Datum → Option Datum
  | [], d => some d
  | key :: path, table entries => (entries.lookup key).bind (at? path)
  | key :: path, list ds =>
    (ds.zipIdx.find? fun (_, i) => Text.natText i = key).bind fun (d, _) => at? path d
  | _ :: _, _ => none

/-- A table in which a path of keys leads to the data. -/
def nested (d : Datum) : List String → Datum
  | [] => d
  | key :: path => table [(key, nested d path)]

end AccessBroker.Datum
