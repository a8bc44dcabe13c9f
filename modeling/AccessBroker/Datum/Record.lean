/-
Reading records out of data.

A record is read from a table, entry by entry in the order of the keys, or from
a list of its fields in their order; a field that is not given keeps the value
it has, and a key that names no field is passed over. A fault says where in the
data it stands. JSON and configuration documents differ in three points only,
which a `Dialect` holds.
-/
import AccessBroker.Datum.Cause

namespace AccessBroker.Datum

/-- Where JSON and configuration documents differ. -/
structure Dialect where
  /-- Whether a list may hold no more than the fields of the record. -/
  refusesMore : Bool
  /-- Whether a variant may be given by its place among all. -/
  takesPlaces : Bool
  /-- What is asked for where a variant is. -/
  variantForm : String → String

/-- The way of JSON. -/
def Dialect.json : Dialect := ⟨true, false, fun _ => "string or map"⟩

/-- The way of configuration documents. -/
def Dialect.setting : Dialect := ⟨false, true, fun name => "enum " ++ name⟩

/-- A fault, and the keys that lead to it. -/
structure Fault where
  path : List String
  cause : Cause

/-- Data read, or a fault. -/
abbrev Read (α : Type) := Except Fault α

/-- A fault at the place that is being read. -/
def refuse {α : Type} (cause : Cause) : Read α := .error ⟨[], cause⟩

/-- A reading below a key. -/
def under {α : Type} (key : String) : Read α → Read α
  | .ok a => .ok a
  | .error f => .error { f with path := key :: f.path }

/-! ## Simple data -/

/-- Reads a text. -/
def readText : Datum → Read String
  | text s => .ok s
  | char c => .ok c.toString
  | d => refuse (.wrongType d "a string")

/-- Reads a truth value. -/
def readBool : Datum → Read Bool
  | bool b => .ok b
  | d => refuse (.wrongType d "a boolean")

/-- Reads a whole number of so many bits that is not negative. -/
def readNat (bits : Nat) (d : Datum) : Read Nat :=
  let expected := "u" ++ Text.natText bits
  match d with
  | whole n =>
    if 0 ≤ n ∧ n < Nat.pow 2 bits then .ok n.toNat
    else if fitsWord n then refuse (.wrongValue d expected)
    else refuse (.wrongType d expected)
  | d => refuse (.wrongType d expected)

/-- Reads data that may be null. -/
def readOption {α : Type} (read : Datum → Read α) : Datum → Read (Option α)
  | null => .ok none
  | d => (read d).map some

/-- Reads the entries of a table in the order of their keys. -/
def readEntries {α : Type} (read : Datum → Read α) : List (String × Datum) → Read (List (String × α))
  | [] => .ok []
  | (key, d) :: rest => do
    let a ← under key (read d)
    let more ← readEntries read rest
    .ok ((key, a) :: more)

/-- Reads a table with any keys. -/
def readTable {α : Type} (read : Datum → Read α) : Datum → Read (List (String × α))
  | table entries => readEntries read (Store.inOrder entries)
  | d => refuse (.wrongType d "a map")

/-! ## Variants -/

/-- The variant that has a name. -/
def variantNamed {α : Type} (known : List (String × α)) (name : String) : Read α :=
  match known.lookup name with
  | some a => .ok a
  | none => refuse (.unknownVariant name (known.map Prod.fst))

/-- The variant at a place. -/
def variantAt {α : Type} (known : List (String × α)) (n : Nat) : Read α :=
  match known[n]? with
  | some (_, a) => .ok a
  | none => refuse (.wrongValue (whole n) ("variant index 0 <= i < " ++ Text.natText known.length))

/-- Reads a variant: its name, its place, or a table in which the name leads to null. -/
def readVariant {α : Type} (dialect : Dialect) (choice : String) (known : List (String × α)) :
    Datum → Read α
  | text name => variantNamed known name
  | table entries =>
    match dialect.refusesMore, Store.inOrder entries with
    | true, [] => refuse (.wrongValue (table entries) "map with a single key")
    | true, _ :: _ :: _ => refuse (.wrongValue (table entries) "map with a single key")
    | _, [] => refuse (.wrongType (table entries) "enum")
    | _, (name, d) :: _ => do
      let a ← variantNamed known name
      match d with
      | null => .ok a
      | d =>
        if dialect.refusesMore then refuse (.wrongType d "unit")
        else under name (refuse (.wrongType d "unit"))
  | whole n =>
    if dialect.takesPlaces ∧ 0 ≤ n ∧ n < Nat.pow 2 32 then variantAt known n.toNat
    else refuse (.wrongType (whole n) (dialect.variantForm choice))
  | d => refuse (.wrongType d (dialect.variantForm choice))

/-! ## Records -/

/-- A field of a record: its key, and how the data under the key changes the record. -/
structure Field (σ : Type) where
  key : String
  read : Datum → σ → Read σ

/-- A field from a way to read data and a way to put it into the record. -/
def Field.of {σ α : Type} (key : String) (read : Datum → Read α) (put : σ → α → σ) : Field σ :=
  ⟨key, fun d s => (read d).map (put s)⟩

/-- Reads the entries of a table into a record. -/
def fillFrom {σ : Type} (fields : List (Field σ)) : List (String × Datum) → σ → Read σ
  | [], s => .ok s
  | (key, d) :: rest, s =>
    match fields.find? fun f => f.key = key with
    | none => fillFrom fields rest s
    | some f => do
      let s ← under key (f.read d s)
      fillFrom fields rest s

/-- Reads the elements of a list into the fields of a record, in their order from place `i` on. -/
def fillInOrder {σ : Type} : Nat → List (Field σ) → List Datum → σ → Read σ
  | i, f :: fields, d :: rest, s => do
    let s ← under (Text.natText i) (f.read d s)
    fillInOrder (i + 1) fields rest s
  | _, _, _, s => .ok s

/-- Reads a record, starting from the values its fields have when they are not given. -/
def readRecord {σ : Type} (dialect : Dialect) (name : String) (fields : List (Field σ)) (start : σ) :
    Datum → Read σ
  | table entries => fillFrom fields (Store.inOrder entries) start
  | list elements => do
    let s ← fillInOrder 0 fields elements start
    if dialect.refusesMore ∧ fields.length < elements.length then refuse (.tooMany elements.length)
    else .ok s
  | d => refuse (.wrongType d ("struct " ++ name))

/-- A reading whose fault is told by its cause alone. -/
def causeOnly {α : Type} : Read α → Except Cause α
  | .ok a => .ok a
  | .error f => .error f.cause

/-- Reads a variant in JSON; an object of two members is none, even if they have one name. -/
def variantOfJson {α : Type} (choice : String) (known : List (String × α)) (j : Json) :
    Except Cause α :=
  match j with
  | .object (_ :: _ :: _) => .error (.wrongValue (ofJson j) "map with a single key")
  | j => causeOnly (readVariant .json choice known (ofJson j))

end AccessBroker.Datum
