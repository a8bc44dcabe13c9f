/-
Why data does not have the form that is asked for.

A cause names what was found and what was asked for. There are two wordings of
it: one for data of JSON, and one for data of configuration documents, which
goes on to say where it stands.
-/
import AccessBroker.Datum.Basic
import AccessBroker.Text.Debug

namespace AccessBroker.Datum

/-- Why data does not have the form that is asked for. -/
inductive Cause where
  | wrongType (found : Datum) (expected : String)
  | wrongValue (found : Datum) (expected : String)
  | unknownVariant (name : String) (known : List String)
  | tooMany (count : Nat)
  | noAlternative (choice : String)

/-- Some names in ticks, as the names of which one is asked for. -/
def oneOf (names : List String) : String :=
  let ticked := names.map fun n => "`" ++ n ++ "`"
  match ticked with
  | [a] => a
  | [a, b] => a ++ " or " ++ b
  | _ => "one of " ++ ", ".intercalate ticked

/-- A truth value in words. -/
def boolText (b : Bool) : String := if b then "true" else "false"

/-- A number that does not fit into 64 bits, with the kind that it would fit. -/
def wideText (n : Int) : String :=
  "integer `" ++ Text.intText n ++ "` as " ++ (if 0 ≤ n then "u128" else "i128")

/-- Whether a number fits into 64 bits. -/
def fitsWord (n : Int) : Bool := -(Nat.pow 2 63 : Int) ≤ n && n < Nat.pow 2 64

/-- An infinite value in words. -/
def infiniteText (negative : Bool) : String := if negative then "-inf" else "inf"

/-- What was found, in JSON. -/
def describe : Datum → String
  | null => "null"
  | bool b => "boolean `" ++ boolText b ++ "`"
  | whole n => "integer `" ++ Text.intText n ++ "`"
  | float x => "floating point `" ++ x.scientificText ++ "`"
  | infinite negative => "floating point `" ++ infiniteText negative ++ "`"
  | notNumber => "floating point `NaN`"
  | char c => "character `" ++ c.toString ++ "`"
  | text s => "string " ++ Text.debug s
  | list _ => "sequence"
  | table _ => "map"

/-- What was found, in a configuration document. -/
def describeSetting : Datum → String
  | null => "unit"
  | bool b => "bool " ++ boolText b
  | whole n =>
    if !fitsWord n then wideText n
    else if 0 ≤ n then "unsigned int `" ++ Text.intText n ++ "`"
    else "signed int `" ++ Text.intText n ++ "`"
  | float x => "float `" ++ x.plainText ++ "`"
  | infinite negative => "float `" ++ infiniteText negative ++ "`"
  | notNumber => "float `NaN`"
  | char c => "char " ++ Text.debugCharText c
  | text s => "string " ++ Text.debug s
  | list _ => "sequence"
  | table _ => "map"

namespace Cause

/-- The sentence that names the cause, for data of JSON. -/
def message : Cause → String
  | wrongType found expected => "invalid type: " ++ found.describe ++ ", expected " ++ expected
  | wrongValue found expected => "invalid value: " ++ found.describe ++ ", expected " ++ expected
  | unknownVariant name known => "unknown variant `" ++ name ++ "`, expected " ++ oneOf known
  | tooMany count =>
    "invalid length " ++ Text.natText count ++ ", expected fewer elements in array"
  | noAlternative choice => "data did not match any variant of untagged enum " ++ choice

/-- The sentence that names the cause, for data of a configuration document. -/
def settingMessage : Cause → String
  | wrongType found expected =>
    "invalid type: found " ++ found.describeSetting ++ ", expected " ++ expected
  | wrongValue found expected =>
    "invalid value " ++ found.describeSetting ++ ", expected " ++ expected
  | unknownVariant name known =>
    "unknown variant: found `" ++ name ++ "`, expected `" ++ oneOf known ++ "`"
  | c => c.message

end Cause

end AccessBroker.Datum
