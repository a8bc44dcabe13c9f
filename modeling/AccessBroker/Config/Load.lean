/-
Loading a configuration.

The file and the environment are read, laid over each other and checked; the
first thing that is no good is told.
-/
import AccessBroker.Config.Fault
import AccessBroker.Config.Reading
import AccessBroker.Environment.Settings
import AccessBroker.Yaml.Value

namespace AccessBroker.Config

/-- A configuration file: its name, and its text if it is there. -/
structure File where
  name : String
  text : Option String

/-- The settings in a file. -/
def File.settings (f : File) : Except StartupFault Datum :=
  match f.text with
  | none => .error (.missingFile f.name)
  | some text =>
    match Yaml.readTable? text with
    | some entries => .ok (.table entries)
    | none => .error .unreadableFile

/-- The layers of a file, if one is asked for, and the environment. -/
def layers (file : Option File) (env : Environment) : Except StartupFault Layers :=
  match file with
  | none => .ok ⟨none, env.settings⟩
  | some f => f.settings.map fun below => ⟨some (f.name, below), env.settings⟩

/-- Reads the configuration that is seen in the layers. -/
def ofLayers (l : Layers) : Except StartupFault Config :=
  match read .setting l.seen with
  | .ok c => .ok c
  | .error f => .error (.misread (l.misread f))

/-- A configuration that is valid, or its first fault. -/
def checked (c : Config) : Except StartupFault Config :=
  match c.fault? with
  | none => .ok c
  | some f => .error (.setting f)

/-- Loads a configuration from a file, if one is asked for, and the environment. -/
def load (file : Option File) (env : Environment) : Except StartupFault Config := do
  let l ← layers file env
  let c ← ofLayers l
  checked c

end AccessBroker.Config
