/-
What comes of a question to a store.

A store may hold the value, may be out of reach with a reason of its own, may
break while it looks, or may never answer.
-/

namespace AccessBroker.Store

/-- What comes of a question to a store. -/
inductive Answer (α : Type) where
  | value (a : α)
  | unavailable (reason : String)
  | broken
  | silent
  deriving DecidableEq

end AccessBroker.Store
