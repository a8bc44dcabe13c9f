/-
The program.

The variables of the process and the configuration file are read here, and what
the run comes to is printed. Everything else is decided by `CommandLine.run`.
-/
import AccessBroker.CommandLine.Run

namespace AccessBroker.Program

/-- The text of a file, if the file is there and holds text. -/
def textOf? (name : String) : IO (Option String) := do
  try return some (← IO.FS.readFile name)
  catch _ => return none

/-- The variables that a block of them holds: a name and a value each, with zeros behind them. -/
def entriesOf (block : List UInt8) : List (String × String) :=
  (Text.splitAll 0 block).filterMap fun entry => do
    let cs ← Text.Utf8.decodeChars? entry
    let (name, value) ← Text.splitFirst? '=' cs
    some (String.ofList name, String.ofList value)

/-- The environment of the process. -/
def environment : IO Environment := do
  try
    let block ← IO.FS.readBinFile "/proc/self/environ"
    return .ofList (entriesOf block.toList)
  catch _ => return .empty

/-- Runs the program on its arguments. -/
def run (args : List String) : IO UInt32 := do
  let env ← environment
  let name? := (CommandLine.read env args).toOption.bind CommandLine.Asked.fileName?
  let text? ← match name? with
    | some name => textOf? name
    | none => pure none
  let outcome := CommandLine.run args (fun name => if name? = some name then text? else none) env
  (← IO.getStdout).putStr outcome.output
  (← IO.getStderr).putStr outcome.errors
  return .ofNat outcome.code

end AccessBroker.Program

/-- The entry of the program. -/
def main (args : List String) : IO UInt32 := AccessBroker.Program.run args
