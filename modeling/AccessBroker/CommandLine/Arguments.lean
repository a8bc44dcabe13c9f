/-
The arguments of the command line.

Arguments are options, at most one command, and what the command takes. Some
options may stand behind the command too. The value of an option is looked at
only when the next option begins or the arguments end, so an argument that is
not known is told before a value that is no good. An option that is not given
may be given by an environment variable.
-/
import AccessBroker.Address.Basic
import AccessBroker.Environment.Basic

namespace AccessBroker.CommandLine

/-- An option that takes a value. -/
inductive Choice where
  | config
  | port
  | host
  | logLevel
  | logFormat
  deriving DecidableEq

namespace Choice

/-- All options, in the order in which they are described. -/
def all : List Choice := [config, port, host, logLevel, logFormat]

/-- The long name. -/
def long : Choice → String
  | config => "config"
  | port => "port"
  | host => "host"
  | logLevel => "log-level"
  | logFormat => "log-format"

/-- The short name, if there is one. -/
def short? : Choice → Option Char
  | config => some 'c'
  | port => some 'p'
  | _ => none

/-- Whether the option may stand behind a command. -/
def isGlobal : Choice → Bool
  | config | logLevel | logFormat => true
  | port | host => false

/-- The name of the value. -/
def valueName : Choice → String
  | config => "CONFIG"
  | port => "PORT"
  | host => "HOST"
  | logLevel => "LOG_LEVEL"
  | logFormat => "LOG_FORMAT"

/-- The variable that gives the value otherwise. -/
def variableName (c : Choice) : String := "HAUTH_" ++ c.valueName

end Choice

/-- Where a value belongs: to an option or to the address of a command. -/
inductive Slot where
  | choice (c : Choice)
  | address
  deriving DecidableEq

/-- A slot as it is described. -/
def Slot.text : Slot → String
  | choice c => "--" ++ c.long ++ " <" ++ c.valueName ++ ">"
  | address => "<IP>"

/-- Why arguments are no good. -/
inductive Misuse where
  | unexpected (argument : String)
  | unknownCommand (name : String)
  | missingValue (slot : Slot)
  | invalidValue (value : String) (slot : Slot) (reason : String)
  | needlessValue (value flag : String)
  | repeated (slot : Slot)
  | missingAddress
  deriving DecidableEq

namespace Misuse

/-- The sentence that names the fault. -/
def message : Misuse → String
  | unexpected argument => "unexpected argument '" ++ argument ++ "' found"
  | unknownCommand name => "unrecognized subcommand '" ++ name ++ "'"
  | missingValue slot => "a value is required for '" ++ slot.text ++ "' but none was supplied"
  | invalidValue value slot reason =>
    "invalid value '" ++ value ++ "' for '" ++ slot.text ++ "': " ++ reason
  | needlessValue value flag =>
    "unexpected value '" ++ value ++ "' for '" ++ flag ++ "' found; no more were expected"
  | repeated slot => "the argument '" ++ slot.text ++ "' cannot be used multiple times"
  | missingAddress => "the following required arguments were not provided:"

end Misuse

/-! ## Values -/

/-- The values given so far. -/
structure Given where
  config : Option String
  port : Option UInt16
  host : Option String
  logLevel : Option String
  logFormat : Option String
  address : Option Address
  deriving DecidableEq

/-- Nothing is given. -/
def Given.nothing : Given := ⟨none, none, none, none, none, none⟩

/-- Whether a slot has a value. -/
def Given.has (g : Given) : Slot → Bool
  | .choice .config => g.config.isSome
  | .choice .port => g.port.isSome
  | .choice .host => g.host.isSome
  | .choice .logLevel => g.logLevel.isSome
  | .choice .logFormat => g.logFormat.isSome
  | .address => g.address.isSome

/-- A whole number of 64 bits with a sign, or what is wrong with its text. -/
def readInt (s : String) : Except String Int :=
  match s.toList with
  | '-' :: c :: rest =>
    if c = '+' then .error Text.NumberFault.invalidDigit.message
    else
      match Text.readNat (Nat.pow 2 63) (c :: rest) with
      | .ok n => .ok (-n)
      | .error .tooLarge => .error "number too small to fit in target type"
      | .error f => .error f.message
  | cs => (Text.readNat (Nat.pow 2 63 - 1) cs).mapError Text.NumberFault.message |>.map Int.ofNat

/-- Reads a port. -/
def readPort (s : String) : Except String UInt16 :=
  match readInt s with
  | .error reason => .error reason
  | .ok n =>
    if 0 ≤ n ∧ n ≤ 65535 then .ok (UInt16.ofNat n.toNat)
    else .error (Text.intText n ++ " is not in 0..=65535")

/-- Takes the value of a slot. -/
def Given.take (g : Given) (slot : Slot) (value : String) : Except Misuse Given :=
  match slot with
  | .choice .config => if value.isEmpty then .error (.missingValue slot) else .ok { g with config := value }
  | .choice .port =>
    match readPort value with
    | .ok n => .ok { g with port := n }
    | .error reason => .error (.invalidValue value slot reason)
  | .choice .host => .ok { g with host := value }
  | .choice .logLevel => .ok { g with logLevel := value }
  | .choice .logFormat => .ok { g with logFormat := value }
  | .address =>
    match Address.ofText? value with
    | some a => .ok { g with address := a }
    | none => .error (.invalidValue value slot Address.faultMessage)

/-- A slot that was named, with its value once that is there. -/
abbrev Pending := Option (Slot × Option String)

/-- Takes a value that was put off. -/
def Given.settle (g : Given) : Pending → Except Misuse Given
  | none => .ok g
  | some (slot, none) => .error (.missingValue slot)
  | some (slot, some value) => if g.has slot then .error (.repeated slot) else g.take slot value

/-- Takes the values that environment variables give to options without one. -/
def Given.fill (env : Environment) : List Choice → Given → Except Misuse Given
  | [], g => .ok g
  | c :: rest, g =>
    match env.get? c.variableName with
    | some value => do
      let g ← if g.has (.choice c) then .ok g else g.take (.choice c) value
      fill env rest g
    | none => fill env rest g

/-! ## Options -/

/-- What one argument comes to: more arguments follow, or the program only tells of itself. -/
inductive Step where
  | more (g : Given) (pending : Pending)
  | version
  | help

/-- The options that may stand in a place. -/
def choicesAt (behindCommand : Bool) : List Choice :=
  Choice.all.filter fun c => !behindCommand || c.isGlobal

/-- Takes an option with the value attached to it, or puts it off until the value comes. -/
def takeChoice (g : Given) (pending : Pending) (c : Choice) (attached : Option String) :
    Except Misuse Step := do
  let g ← g.settle pending
  match attached with
  | none => .ok (.more g (some (.choice c, none)))
  | some value => do
    let g ← g.settle (some (.choice c, some value))
    .ok (.more g none)

/-- Takes an argument behind two hyphens. -/
def takeLong (behindCommand : Bool) (g : Given) (pending : Pending) (cs : List Char) :
    Except Misuse Step :=
  let (name, attached) :=
    match Text.splitFirst? '=' cs with
    | some (name, value) => (String.ofList name, some (String.ofList value))
    | none => (String.ofList cs, none)
  let told (step : Step) : Except Misuse Step := do
    let _ ← g.settle pending
    match attached with
    | some value => .error (.needlessValue value ("--" ++ name))
    | none => .ok step
  match (choicesAt behindCommand).find? (·.long = name) with
  | some c => takeChoice g pending c attached
  | none =>
    if name = "help" then told .help
    else if name = "version" && !behindCommand then told .version
    else .error (.unexpected ("--" ++ name))

/-- Takes an argument behind one hyphen; its first letter is the name of an option. -/
def takeShort (behindCommand : Bool) (g : Given) (pending : Pending) (name : Char)
    (rest : List Char) : Except Misuse Step :=
  let attached :=
    match rest with
    | [] => none
    | '=' :: value => some (String.ofList value)
    | value => some (String.ofList value)
  match (choicesAt behindCommand).find? (·.short? = some name) with
  | some c => takeChoice g pending c attached
  | none =>
    if name = 'h' then (g.settle pending).map fun _ => .help
    else if name = 'V' && !behindCommand then (g.settle pending).map fun _ => .version
    else .error (.unexpected (String.ofList ['-', name]))

/-! ## Commands -/

/-- What is to be done. -/
inductive CommandName where
  | serve
  | checkConfig
  | classify
  | help
  deriving DecidableEq

/-- The commands by their names. -/
def commandNamed? (s : String) : Option CommandName :=
  if s = "serve" then some .serve
  else if s = "check-config" then some .checkConfig
  else if s = "classify" then some .classify
  else if s = "help" then some .help
  else none

/-- What arguments ask for. -/
inductive Asked where
  | version
  | help
  | run (command : CommandName) (g : Given)
  deriving DecidableEq

/-- The configuration file that is to be read, if one is. -/
def Asked.fileName? : Asked → Option String
  | run _ g => g.config
  | version | help => none

/-- The values of both places: those behind the command count before those in front of it. -/
def Given.orElse (inner outer : Given) : Given :=
  { outer with
    config := inner.config.or outer.config
    logLevel := inner.logLevel.or outer.logLevel
    logFormat := inner.logFormat.or outer.logFormat
    address := inner.address }

/-- Reads the arguments behind a command. -/
def readInner (command : CommandName) : Bool → Given → Pending → List String → Except Misuse Asked
  | _, g, pending, [] => (g.settle pending).map (.run command)
  | onlyValues, g, pending, s :: rest =>
    let awaits := match pending with
      | some (_, none) => true
      | _ => false
    let asValue : Except Misuse Asked := do
      if command = .classify && !(g.has .address) && !(pending.any fun p => p.1 = .address) then
        let g ← g.settle pending
        readInner command onlyValues g (some (.address, some s)) rest
      else .error (.unexpected s)
    let goOn (step : Except Misuse Step) : Except Misuse Asked := do
      match ← step with
      | .more g pending => readInner command onlyValues g pending rest
      | .version => .ok .version
      | .help => .ok .help
    if onlyValues then asValue
    else
      match s.toList with
      | ['-', '-'] => readInner command true g pending rest
      | '-' :: '-' :: cs => goOn (takeLong true g pending cs)
      | '-' :: name :: cs => goOn (takeShort true g pending name cs)
      | _ =>
        match pending, awaits with
        | some (slot, _), true => readInner command false g (some (slot, some s)) rest
        | _, _ => asValue

/-- What is asked for by the arguments behind a command, with those of the environment. -/
def inner (env : Environment) (command : CommandName) (args : List String) :
    Except Misuse Asked := do
  match ← readInner command false .nothing none args with
  | .run command g =>
    let filled ← g.fill env (choicesAt true)
    if command = .classify && !filled.has .address then .error .missingAddress
    else .ok (.run command g)
  | told => .ok told

/-- Reads all arguments. -/
def readOuter (env : Environment) : Bool → Given → Pending → List String → Except Misuse Asked
  | _, g, pending, [] => do
    let g ← g.settle pending
    let g ← g.fill env Choice.all
    .ok (.run .serve g)
  | onlyValues, g, pending, s :: rest =>
    let awaits := match pending with
      | some (_, none) => true
      | _ => false
    let goOn (step : Except Misuse Step) : Except Misuse Asked := do
      match ← step with
      | .more g pending => readOuter env onlyValues g pending rest
      | .version => .ok .version
      | .help => .ok .help
    if onlyValues then
      .error (if (commandNamed? s).isSome then .unexpected s else .unknownCommand s)
    else
      match s.toList with
      | ['-', '-'] => readOuter env true g pending rest
      | '-' :: '-' :: cs => goOn (takeLong false g pending cs)
      | '-' :: name :: cs => goOn (takeShort false g pending name cs)
      | _ =>
        match pending, awaits with
        | some (slot, _), true => readOuter env false g (some (slot, some s)) rest
        | _, _ =>
          match commandNamed? s with
          | none => .error (.unknownCommand s)
          | some .help => .ok .help
          | some command => do
            match ← inner env command rest with
            | .run command g' =>
              let g ← g.settle pending
              let g := g'.orElse g
              let g ← g.fill env Choice.all
              .ok (.run command g)
            | told => .ok told

/-- What the arguments of the program ask for. -/
def read (env : Environment) (args : List String) : Except Misuse Asked :=
  readOuter env false .nothing none args

end AccessBroker.CommandLine
