/-
What a request for a token comes to, as it is told to the client.

A result is a token with an advisory lifetime, or the name of a fault with its
sentence; either may carry the number by which a browser tells its messages
apart. The two are told apart by their fields alone.
-/
import AccessBroker.Token.Basic

namespace AccessBroker

/-- What is told when a token is given. -/
structure TokenSuccess where
  accessToken : String
  expiresIn : Option UInt64
  messageId : Option String
  deriving DecidableEq

/-- What is told when none is given. -/
structure TokenFailure where
  error : TokenFault
  message : String
  messageId : Option String
  deriving DecidableEq

/-- What a request for a token comes to. -/
inductive TokenResult where
  | success (s : TokenSuccess)
  | failure (f : TokenFailure)
  deriving DecidableEq

namespace TokenResult

/-- The fault, if no token is given. -/
def fault? : TokenResult → Option TokenFault
  | success _ => none
  | failure f => some f.error

/-- The result for a token. -/
def given (t : AccessToken) (expiresIn : Option UInt64) (messageId : Option String) : TokenResult :=
  success ⟨t.encode, expiresIn, messageId⟩

/-- The result for a fault. -/
def refused (e : TokenFault) (messageId : Option String) : TokenResult :=
  failure ⟨e, e.message, messageId⟩

/-- A member that is left out when there is nothing to tell. -/
def optional {α : Type} (name : String) (toJson : α → Json) : Option α → List (String × Json)
  | some a => [(name, toJson a)]
  | none => []

/-- A result as a JSON object. -/
def toJson : TokenResult → Json
  | success s =>
    .object ([("accessToken", .text s.accessToken)] ++ optional "expiresIn" Json.ofWord s.expiresIn ++
      optional "messageId" .text s.messageId)
  | failure f =>
    .object ([("error", .text f.error.name), ("message", .text f.message)] ++
      optional "messageId" .text f.messageId)

/-- The text of a result. -/
def write (r : TokenResult) : String := r.toJson.write

/-- Reads a text that may be left out or be null. -/
def optionalText? : Option Json → Option (Option String)
  | none => some none
  | some .null => some none
  | some (.text s) => some (some s)
  | some _ => none

/-- Reads a whole number of 64 bits that may be left out or be null. -/
def optionalWord? : Option Json → Option (Option UInt64)
  | none => some none
  | some .null => some none
  | some (.whole (.ofNat n)) => if n < Nat.pow 2 64 then some (some (UInt64.ofNat n)) else none
  | some _ => none

/-- Reads what is told when a token is given. -/
def success? (j : Json) : Option TokenSuccess := do
  match ← Json.Record.ofJson? ["accessToken", "expiresIn", "messageId"] j with
  | [some (.text token), expiresIn, messageId] =>
    some ⟨token, ← optionalWord? expiresIn, ← optionalText? messageId⟩
  | _ => none

/-- Reads what is told when none is given. -/
def failure? (j : Json) : Option TokenFailure := do
  match ← Json.Record.ofJson? ["error", "message", "messageId"] j with
  | [some error, some (.text message), messageId] =>
    some ⟨← (TokenFault.ofJson error).toOption, message, ← optionalText? messageId⟩
  | _ => none

/-- Reads a result. -/
def ofJson? (j : Json) : Option TokenResult :=
  match success? j with
  | some s => some (success s)
  | none => (failure? j).map failure

/-- Reads the text of a result. -/
def read? (s : String) : Option TokenResult := (Json.read? s).bind ofJson?

end TokenResult

end AccessBroker
