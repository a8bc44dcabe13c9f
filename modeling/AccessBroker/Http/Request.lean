/-
Requests.

A request has a method, a target and headers, whose names are kept in lower
case. The headers of one name keep their order.
-/
import AccessBroker.Address.Basic
import AccessBroker.Cookie.Jar
import AccessBroker.Http.Query
import AccessBroker.Http.Target

namespace AccessBroker.Http

/-- A request, and the address at the other end of the line. -/
structure Request where
  method : String
  target : Target
  headers : List (String × List UInt8)
  peer : Address

/-- Why a request is none. -/
inductive RequestFault where
  | method
  | target (f : TargetFault)
  | headerName
  | headerValue
  deriving DecidableEq

namespace RequestFault

/-- The words that name the fault. -/
def message : RequestFault → String
  | method => "invalid HTTP method"
  | target f => f.message
  | headerName => "invalid HTTP header name"
  | headerValue => "failed to parse header value"

end RequestFault

namespace Request

/-- The characters of methods and names. -/
def inToken (c : Char) : Bool := c.isAlphanum || "!#$%&\x27*+-.^_`|~".toList.contains c

/-- Whether a text is a method or a name. -/
def isToken (s : String) : Bool := !s.isEmpty && s.toList.all inToken

/-- Whether a byte may stand in the value of a header. -/
def inValue (b : UInt8) : Bool := (0x20 ≤ b && b ≠ 0x7F) || b = 0x09

/-- A header with its name in lower case. -/
def header (name value : String) : Except RequestFault (String × List UInt8) :=
  let bytes := Text.Utf8.encode value
  if !isToken name then .error .headerName
  else if !bytes.all inValue then .error .headerValue
  else .ok (String.ofList (name.toList.map Text.asciiLower), bytes)

/-- A request from its parts. -/
def make (method uri : String) (headers : List (String × String)) (peer : Address) :
    Except RequestFault Request := do
  if !isToken method then .error .method
  else
    match Target.ofText uri with
    | .error f => .error (.target f)
    | .ok target => do
      let hs ← headers.mapM fun (name, value) => header name value
      .ok ⟨method, target, hs, peer⟩

/-- The values of the headers with a name. -/
def values (r : Request) (name : String) : List (List UInt8) :=
  (r.headers.filter fun (n, _) => n = name).map Prod.snd

/-- The cookies of a request. -/
def jar (r : Request) : Cookie.Jar := .ofHeaders (r.values "cookie")

/-- The parameters of a request. -/
def parameters (r : Request) : List (String × String) := Query.pairs (r.target.query.getD "")

/-- The address that the first header about it names: the first of the addresses in it. -/
def forwarded? (r : Request) : Option Address := do
  let bytes ← (r.values "x-forwarded-for").head?
  let cs ← Cookie.visible? bytes
  let first ← (Text.splitAll ',' cs).head?
  Address.ofText? (String.ofList (Text.trimChars first))

/-- The address of the client in canonical form. A header is believed only if a proxy in front may
tell it. -/
def client (r : Request) (trust : Bool) : Address :=
  ((if trust then r.forwarded? else none).getD r.peer).canonical

end Request

end AccessBroker.Http
