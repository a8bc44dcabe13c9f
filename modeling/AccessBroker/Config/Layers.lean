/-
Settings in layers.

The environment lies over the configuration file. A value that does not have
the form of its setting is named by its path, in the words of the layer that it
was seen in.
-/
import AccessBroker.Datum.Overlay
import AccessBroker.Datum.Record

namespace AccessBroker.Config

/-- The layers: the name of the file and its settings, if there is one, and the environment. -/
structure Layers where
  file : Option (String × Datum)
  environment : Datum

/-- A value that does not have the form of its setting, and the file it stands in, if it does not
come from the environment. -/
structure Misread where
  fault : Datum.Fault
  file : Option String

namespace Misread

/-- The path as the layer spells it. -/
def key (m : Misread) : String :=
  match m.file with
  | some _ => ".".intercalate ("default" :: m.fault.path)
  | none => String.ofList ((".".intercalate m.fault.path).toList.map Text.asciiUpper)

/-- The layer in words. -/
def source (m : Misread) : String :=
  match m.file with
  | some name => name ++ " YAML file"
  | none => "`HAUTH_` environment variable(s)"

/-- The sentence that names the value and its place. -/
def message (m : Misread) : String :=
  m.fault.cause.settingMessage ++
    (if m.fault.path.isEmpty then "" else " for key " ++ Text.debug m.key) ++ " in " ++ m.source

end Misread

namespace Layers

/-- What is seen of all layers. -/
def seen (l : Layers) : Datum :=
  match l.file with
  | some (_, below) => .overlay l.environment below
  | none => l.environment

/-- A fault in what is seen, with the layer that it was seen in. -/
def misread (l : Layers) (f : Datum.Fault) : Misread :=
  match l.file with
  | some (name, _) => ⟨f, if (Datum.at? f.path l.environment).isSome then none else some name⟩
  | none => ⟨f, none⟩

end Layers

end AccessBroker.Config
