/-
Items and how they may be accessed.

An item is known by its name, blank characters around it dropped. The store of
items tells the access mode of each; the image service asks for it before it
offers a way to gain access.
-/
import AccessBroker.Datum.Record
import AccessBroker.Store.Answer
import AccessBroker.Store.Table
import AccessBroker.Text.Blank

namespace AccessBroker

/-- How an item may be accessed. -/
inductive AccessMode where
  /-- By anyone in full. -/
  | open
  /-- By clients without access in a lower quality. -/
  | tiered
  /-- Not at all by clients without access. -/
  | allOrNothing
  deriving DecidableEq

namespace AccessMode

/-- The modes by their names. -/
def named : List (String × AccessMode) :=
  [("OPEN", .open), ("TIERED", .tiered), ("ALL_OR_NOTHING", .allOrNothing)]

/-- The name of a mode. -/
def name : AccessMode → String
  | .open => "OPEN"
  | .tiered => "TIERED"
  | .allOrNothing => "ALL_OR_NOTHING"

/-- A mode as a JSON value. -/
def toJson (m : AccessMode) : Json := .text m.name

/-- Reads a mode. -/
def read (dialect : Datum.Dialect) : Datum → Datum.Read AccessMode :=
  Datum.readVariant dialect "AccessMode" named

/-- Reads a mode in JSON. -/
def ofJson : Json → Except Datum.Cause AccessMode := Datum.variantOfJson "AccessMode" named

end AccessMode

/-- Why no mode can be told. -/
inductive ItemFault where
  | notFound
  | unavailable
  deriving DecidableEq

namespace ItemFault

/-- The faults by their names. -/
def named : List (String × ItemFault) := [("notFound", .notFound), ("unavailable", .unavailable)]

/-- The name of a fault. -/
def name : ItemFault → String
  | notFound => "notFound"
  | unavailable => "unavailable"

/-- Reads a fault in JSON. -/
def ofJson : Json → Except Datum.Cause ItemFault := Datum.variantOfJson "ItemError" named

/-- The status of the answer that tells a client. -/
def status : ItemFault → Nat
  | notFound => 404
  | unavailable => 500

/-- The sentence that tells a client, for the item asked for. -/
def message (item : String) : ItemFault → String
  | notFound => "No access mode is recorded for item " ++ item
  | unavailable => "The item store is unavailable"

end ItemFault

/-- The access modes of the items that are known. -/
structure ItemModes where
  table : Store.Table AccessMode

namespace ItemModes

/-- No item is known. -/
def empty : ItemModes := ⟨.empty⟩

/-- The key under which an item is known. -/
def key (item : String) : String := Text.trim item

/-- Sets the mode of an item. -/
def set (s : ItemModes) (item : String) (mode : AccessMode) : ItemModes :=
  ⟨s.table.insert (key item) mode⟩

/-- The mode of an item. -/
def get? (s : ItemModes) (item : String) : Option AccessMode := s.table.get? (key item)

/-- How many items are known. -/
def size (s : ItemModes) : Nat := s.table.size

/-- Whether no item is known. -/
def isEmpty (s : ItemModes) : Bool := s.table.isEmpty

/-- The items in a list, a later entry over an earlier one for the same item. -/
def ofList (entries : List (String × AccessMode)) : ItemModes :=
  entries.foldl (fun s (item, mode) => s.set item mode) empty

end ItemModes

end AccessBroker
