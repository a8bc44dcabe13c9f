/-
Client addresses of either version.

Two addresses are compared in canonical form: a version 6 address that carries
a version 4 address counts as the latter. Sealed cookies hold the text of the
canonical form.
-/
import AccessBroker.Address.V6

namespace AccessBroker

/-- An address of version 4 or 6. -/
inductive Address where
  | v4 (a : AddressV4)
  | v6 (a : AddressV6)
  deriving DecidableEq

namespace Address

/-- The text of an address. -/
def text : Address → String
  | v4 a => a.text
  | v6 a => a.text

/-- Reads an address of either version. -/
def ofText? (s : String) : Option Address :=
  match AddressV4.ofText? s with
  | some a => some (v4 a)
  | none => (AddressV6.ofText? s).map v6

/-- The address itself, or the version 4 address it carries. -/
def canonical : Address → Address
  | v4 a => v4 a
  | v6 a =>
    match a.mapped? with
    | some inner => v4 inner
    | none => v6 a

/-- The text of the canonical form. -/
def canonicalText (a : Address) : String := a.canonical.text

/-- What is said of a text that is no address. -/
def faultMessage : String := "invalid IP address syntax"

@[simp] theorem canonical_canonical (a : Address) : a.canonical.canonical = a.canonical := by
  cases a with
  | v4 a => rfl
  | v6 a => cases h : a.mapped? <;> simp [canonical, h]

end Address

end AccessBroker
