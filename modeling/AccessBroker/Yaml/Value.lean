/-
The data that a YAML document stands for.

A plain scalar is null, a truth value, a number or a text, by its looks; any
other scalar is a text, and a tag of YAML itself asks for one of these kinds. A
number with a zero in front of further digits is a text. Of a key that is
written twice the last counts. A document without any content is an empty table.
-/
import AccessBroker.Datum.Basic
import AccessBroker.Store.Table
import AccessBroker.Yaml.Node

namespace AccessBroker.Yaml

namespace Scalar

/-- Null, in one of its spellings. -/
def isNull (s : String) : Bool := s = "" || s = "~" || s = "null" || s = "Null" || s = "NULL"

/-- A truth value, in one of its spellings. -/
def bool? (s : String) : Option Bool :=
  if s = "true" ∨ s = "True" ∨ s = "TRUE" then some true
  else if s = "false" ∨ s = "False" ∨ s = "FALSE" then some false
  else none

/-- The value of digits of a base. -/
def digitsValue? (base : Nat) (cs : List Char) : Option Nat :=
  if cs.isEmpty then none
  else do
    let ds ← cs.mapM fun c => (Text.hexDigit? c).filter (· < base)
    some (ds.foldl (fun v d => base * v + d) 0)

/-- Whether a zero stands in front of further digits. -/
def isPadded (cs : List Char) : Bool :=
  let ds := match cs with
    | '+' :: rest => rest
    | '-' :: rest => rest
    | _ => cs
  match ds with
  | '0' :: d :: rest => (d :: rest).all fun c => (Text.digit? c).isSome
  | _ => false

/-- A number that is not negative, behind the mark of its base if it has one. -/
def magnitude? : List Char → Option Nat
  | '0' :: 'x' :: rest => digitsValue? 16 rest
  | '0' :: 'o' :: rest => digitsValue? 8 rest
  | '0' :: 'b' :: rest => digitsValue? 2 rest
  | cs => if isPadded cs then none else digitsValue? 10 cs

/-- A whole number of at most 128 bits. -/
def whole? : List Char → Option Int
  | '-' :: rest => (magnitude? rest).bind fun n => if n ≤ Nat.pow 2 127 then some (-n) else none
  | '+' :: rest => (magnitude? rest).bind fun n => if n < Nat.pow 2 128 then some n else none
  | cs => (magnitude? cs).bind fun n => if n < Nat.pow 2 128 then some n else none

/-- An infinite value or the value that is no number, in one of its spellings. -/
def special? (s : String) : Option Datum :=
  if s = ".inf" ∨ s = ".Inf" ∨ s = ".INF" ∨ s = "+.inf" ∨ s = "+.Inf" ∨ s = "+.INF" then
    some (.infinite false)
  else if s = "-.inf" ∨ s = "-.Inf" ∨ s = "-.INF" then some (.infinite true)
  else if s = ".nan" ∨ s = ".NaN" ∨ s = ".NAN" then some .notNumber
  else none

/-- A floating number; one past the largest is none. -/
def float? (s : String) : Option Datum :=
  match special? s with
  | some d => some d
  | none =>
    match Decimal.Spelling.ofChars? s.toList with
    | some (.finite x) => some (.float x)
    | _ => none

/-- The data of a plain scalar. -/
def plain (s : String) : Datum :=
  if isNull s then .null
  else
    match bool? s with
    | some b => .bool b
    | none =>
      match whole? s.toList with
      | some n => .whole n
      | none =>
        match if isPadded s.toList then none else float? s with
        | some d => d
        | none => .text s

/-- The data of a scalar with a tag of YAML itself. -/
def tagged? (kind s : String) : Option Datum :=
  if kind = "tag:yaml.org,2002:bool" then (bool? s).map .bool
  else if kind = "tag:yaml.org,2002:int" then (whole? s.toList).map .whole
  else if kind = "tag:yaml.org,2002:float" then float? s
  else if kind = "tag:yaml.org,2002:null" then if s ≠ "" ∧ isNull s then some .null else none
  else some (.text s)

/-- Whether a tag asks for a type of its own, of which there is none here. -/
def isForeign (tag : Option String) : Bool := tag.any fun t => t.toList.head? = some '!'

/-- The data of a scalar. The mark of a tag alone asks for nothing. -/
def value? (tag : Option String) (isPlain : Bool) (s : String) : Option Datum :=
  let untagged := if isPlain then plain s else .text s
  match tag with
  | none => some untagged
  | some t => if t = "!" then some untagged else if isForeign tag then none else tagged? t s

end Scalar

namespace Node

mutual

/-- The data of a node. -/
def value? : Node → Option Datum
  | scalar tag isPlain s => Scalar.value? tag isPlain s
  | sequence tag ns => if Scalar.isForeign tag then none else (valueList? ns).map .list
  | mapping tag ns => if Scalar.isForeign tag then none else (valueEntries? [] ns).map .table

/-- The data of some nodes. -/
def valueList? : List Node → Option (List Datum)
  | [] => some []
  | n :: rest => do
    let d ← value? n
    let ds ← valueList? rest
    some (d :: ds)

/-- The entries of a table, after those already there; a key is a scalar and counts as it is written. -/
def valueEntries? (done : List (String × Datum)) : List (Node × Node) → Option (List (String × Datum))
  | [] => some done
  | (scalar _ _ key, n) :: rest => do
    let d ← value? n
    valueEntries? (Store.Table.put key d done) rest
  | _ :: _ => none

end

mutual

/-- How deep sequences and mappings are nested. -/
def depth : Node → Nat
  | scalar _ _ _ => 0
  | sequence _ ns => depthList ns + 1
  | mapping _ ns => depthEntries ns + 1

/-- The greatest depth among some nodes. -/
def depthList : List Node → Nat
  | [] => 0
  | n :: rest => max (depth n) (depthList rest)

/-- The greatest depth among the values of some entries. -/
def depthEntries : List (Node × Node) → Nat
  | [] => 0
  | (_, n) :: rest => max (depth n) (depthEntries rest)

end

end Node

/-- How deep sequences and mappings may be nested. -/
def maxDepth : Nat := 128

/-- The entries of the table at the root of a document, whatever its tag; where nothing is written
there are none. -/
def Node.table? : Node → Option (List (String × Datum))
  | scalar _ isPlain s => if isPlain && s = "" then some [] else none
  | sequence _ _ => none
  | mapping _ ns => valueEntries? [] ns

/-- Reads a document whose content is a table. -/
def readTable? (text : String) : Option (List (String × Datum)) := do
  match ← Node.ofChars? text.toList with
  | none => some []
  | some n => if n.depth ≤ maxDepth then n.table? else none

end AccessBroker.Yaml
