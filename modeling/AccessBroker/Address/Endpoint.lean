/-
Endpoints: an address with a port.

A version 4 address stands before the colon as it is; a version 6 address
stands in square brackets, and may carry a numeric scope after a percent sign.
-/
import AccessBroker.Address.Basic

namespace AccessBroker

/-- An address and a port; `scope` tells apart links that share a version 6 address. -/
inductive Endpoint where
  | v4 (address : AddressV4) (port : Nat)
  | v6 (address : AddressV6) (scope : Nat) (port : Nat)
  deriving DecidableEq

namespace Endpoint

/-- The address of an endpoint. -/
def address : Endpoint → Address
  | v4 a _ => .v4 a
  | v6 a _ _ => .v6 a

/-- The port of an endpoint. -/
def port : Endpoint → Nat
  | v4 _ p => p
  | v6 _ _ p => p

/-- The text of an endpoint; the scope is written only if it is not zero. -/
def text : Endpoint → String
  | v4 a p => a.text ++ ":" ++ Text.natText p
  | v6 a 0 p => "[" ++ a.text ++ "]:" ++ Text.natText p
  | v6 a scope p => "[" ++ a.text ++ "%" ++ Text.natText scope ++ "]:" ++ Text.natText p

/-- A run of decimal digits worth at most `limit`. -/
def number? (limit : Nat) (cs : List Char) : Option Nat :=
  if cs.isEmpty then none else (Text.digitsFrom limit 0 cs).toOption

/-- Reads a version 4 address, a colon and a port. -/
def ofPlain? (cs : List Char) : Option Endpoint := do
  let (host, port) ← Text.splitFirst? ':' cs
  let a ← AddressV4.ofChars? host
  let p ← number? 65535 port
  some (v4 a p)

/-- Reads the inside of the brackets: an address with or without a scope. -/
def scoped? (cs : List Char) : Option (AddressV6 × Nat) :=
  match Text.splitFirst? '%' cs with
  | some (host, scope) => do
    let a ← AddressV6.ofChars? host
    let n ← number? 4294967295 scope
    some (a, n)
  | none => (AddressV6.ofChars? cs).map fun a => (a, 0)

/-- Reads a version 6 address in brackets, a colon and a port. -/
def ofBracketed? : List Char → Option Endpoint
  | '[' :: cs => do
    let (inside, after) ← Text.splitFirst? ']' cs
    let (a, scope) ← scoped? inside
    match after with
    | ':' :: port => do
      let p ← number? 65535 port
      some (v6 a scope p)
    | _ => none
  | _ => none

/-- Reads an endpoint in text. -/
def ofText? (s : String) : Option Endpoint :=
  match ofPlain? s.toList with
  | some e => some e
  | none => ofBracketed? s.toList

end Endpoint

end AccessBroker
