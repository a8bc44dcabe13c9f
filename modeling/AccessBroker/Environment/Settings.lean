/-
Settings in environment variables.

A variable whose name begins with `HAUTH_`, in letters of either case, is a
setting. Two underscores in the rest of the name separate the keys of the path
to it.
-/
import AccessBroker.Datum.Overlay
import AccessBroker.Environment.Basic
import AccessBroker.Environment.Value

namespace AccessBroker.Environment

/-- What the names of settings begin with. -/
def settingMark : List Char := "HAUTH_".toList

/-- The characters with a point for every two underscores. -/
def pointed : List Char → List Char
  | '_' :: '_' :: rest => '.' :: pointed rest
  | c :: rest => c :: pointed rest
  | [] => []

/-- The path of a setting, in lower case, if a variable is one. -/
def pathOf? (name : String) : Option (List String) :=
  let cs := Text.trimChars name.toList
  if (cs.take settingMark.length).map Text.asciiUpper ≠ settingMark then none
  else
    let path := Text.trimChars (pointed (cs.drop settingMark.length))
    let keys := Text.splitAll '.' (path.map Text.asciiLower)
    if keys.any (·.isEmpty) then none else some (keys.map String.ofList)

/-- The settings among the variables, a later variable laid over those before it. -/
def settings (env : Environment) : Datum :=
  env.entries.foldl (fun below (name, value) =>
    match pathOf? name with
    | some path => .overlay (.nested (valueOf value) path) below
    | none => below) (.table [])

end AccessBroker.Environment
