/-
The environment of the process: variables by name.

A secret may be given as the name of a variable; such a variable has to be set
and not empty.
-/
import AccessBroker.Store.Table
import AccessBroker.Text.Number

namespace AccessBroker

/-- The variables, in the order in which they were first set. -/
abbrev Environment := Store.Table String

/-- What is wrong with the variable that a secret refers to. -/
structure SecretFault where
  /-- The setting that holds the secret. -/
  setting : String
  variableName : String
  /-- Whether the variable is set, and then empty. -/
  isSet : Bool
  deriving DecidableEq

/-- The sentence that names the setting and the variable. -/
def SecretFault.message (f : SecretFault) : String :=
  f.setting ++ ": environment variable " ++ f.variableName ++
    (if f.isSet then " is empty" else " is not set")

namespace Environment

/-- The environment with the variables of a list set in turn. -/
def ofList (entries : List (String × String)) : Environment := .ofPairs id entries

/-- What a reference to a variable begins with. -/
def referenceMark : List Char := "env:".toList

/-- The value of a secret, which may be the name of a variable behind the mark. -/
def resolve (env : Environment) (setting value : String) : Except SecretFault String :=
  match Text.after? referenceMark value.toList with
  | none => .ok value
  | some name =>
    match env.get? (String.ofList name) with
    | none => .error ⟨setting, String.ofList name, false⟩
    | some found =>
      if found.isEmpty then .error ⟨setting, String.ofList name, true⟩ else .ok found

end Environment

end AccessBroker
