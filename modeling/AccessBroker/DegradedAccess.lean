/-
Which origins may show a lower quality.

An origin is known by its key, so every spelling of it is found. The viewer of
an origin that nothing is known of may not.
-/
import AccessBroker.Store.Answer
import AccessBroker.Store.Table
import AccessBroker.Url.Basic

namespace AccessBroker

/-- Whether the viewers of known origins may show a lower quality. -/
structure DegradedAccess where
  table : Store.Table Bool

namespace DegradedAccess

/-- No origin is known. -/
def empty : DegradedAccess := ⟨.empty⟩

/-- Sets the flag of an origin. -/
def set (s : DegradedAccess) (origin : String) (allowed : Bool) : DegradedAccess :=
  ⟨s.table.insert (Origin.key origin) allowed⟩

/-- The flag of an origin. -/
def allowed (s : DegradedAccess) (origin : String) : Bool :=
  (s.table.get? (Origin.key origin)).getD false

/-- How many origins are known. -/
def size (s : DegradedAccess) : Nat := s.table.size

/-- Whether no origin is known. -/
def isEmpty (s : DegradedAccess) : Bool := s.table.isEmpty

/-- The origins in a list, a later entry over an earlier one for the same origin. -/
def ofList (entries : List (String × Bool)) : DegradedAccess :=
  entries.foldl (fun s (origin, flag) => s.set origin flag) empty

end DegradedAccess

end AccessBroker
