/-
The parameters in a query.

A query is pairs with ampersands between them; a plus sign stands for a space,
other bytes may be spelled out, and bytes that are no text become replacement
characters. So every query has parameters, if only none.
-/
import AccessBroker.Text.Percent

namespace AccessBroker.Http.Query

/-- The text that a part of a query stands for. -/
def decode (bytes : List UInt8) : String :=
  Text.Utf8.decodeLossy (Text.Percent.decodeBytes (bytes.map fun b => if b = 0x2B then 0x20 else b))

/-- The name and the value in a part of a query; a part without a sign between them is a name. -/
def pair (bytes : List UInt8) : String × String :=
  match Text.splitFirst? 0x3D bytes with
  | some (name, value) => (decode name, decode value)
  | none => (decode bytes, "")

/-- The pairs in a query; empty parts do not count. -/
def pairs (query : String) : List (String × String) :=
  ((Text.splitAll 0x26 (Text.Utf8.encode query)).filter (!·.isEmpty)).map pair

end AccessBroker.Http.Query
