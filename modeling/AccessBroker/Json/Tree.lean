/-
The shape of a JSON text.

A tree keeps every number and every quoted text as spelled; `Json.Value` gives
them meaning. Reading runs over the tokens with a stack of the arrays and
objects still open, one step for each token, so there is no limit on depth.
-/
import AccessBroker.Json.Token

namespace AccessBroker.Json

/-- A JSON text as a tree; the names in an object are quoted texts too. -/
inductive Tree where
  | null
  | bool (b : Bool)
  | number (n : Spelled)
  | quoted (inside : List UInt8)
  | array (elements : List Tree)
  | object (members : List (List UInt8 × Tree))

namespace Tree

/-- An open array with the elements read so far, the last first, or an open object with the members
read so far, the last first, and the name whose value is being read. -/
inductive Frame where
  | array (done : List Tree)
  | object (done : List (List UInt8 × Tree)) (name : List UInt8)

/-- What may come next. -/
inductive State where
  /-- A value. -/
  | value (frames : List Frame)
  /-- The first element of an array, or its end. -/
  | first (frames : List Frame)
  /-- A comma or the end of an array. -/
  | element (done : List Tree) (frames : List Frame)
  /-- The first name in an object, or its end. -/
  | firstName (frames : List Frame)
  /-- A name. -/
  | name (done : List (List UInt8 × Tree)) (frames : List Frame)
  /-- The colon after a name. -/
  | colon (done : List (List UInt8 × Tree)) (name : List UInt8) (frames : List Frame)
  /-- A comma or the end of an object. -/
  | member (done : List (List UInt8 × Tree)) (frames : List Frame)
  /-- Nothing more. -/
  | finished (t : Tree)

/-- Puts a finished value where the innermost open array or object waits for it. -/
def settle (t : Tree) : List Frame → State
  | [] => .finished t
  | .array done :: frames => .element (t :: done) frames
  | .object done name :: frames => .member ((name, t) :: done) frames

/-- The start of a value. -/
def begin? (frames : List Frame) : Token → Option State
  | .null => some (settle .null frames)
  | .bool b => some (settle (.bool b) frames)
  | .number n => some (settle (.number n) frames)
  | .quoted s => some (settle (.quoted s) frames)
  | .openArray => some (.first frames)
  | .openObject => some (.firstName frames)
  | _ => none

/-- One token. -/
def step? : State → Token → Option State
  | .value frames, t => begin? frames t
  | .first frames, .closeArray => some (settle (.array []) frames)
  | .first frames, t => begin? (.array [] :: frames) t
  | .element done frames, .comma => some (.value (.array done :: frames))
  | .element done frames, .closeArray => some (settle (.array done.reverse) frames)
  | .firstName frames, .closeObject => some (settle (.object []) frames)
  | .firstName frames, .quoted s => some (.colon [] s frames)
  | .name done frames, .quoted s => some (.colon done s frames)
  | .colon done name frames, .colon => some (.value (.object done name :: frames))
  | .member done frames, .comma => some (.name done frames)
  | .member done frames, .closeObject => some (settle (.object done.reverse) frames)
  | _, _ => none

/-- Runs over the tokens of one value. -/
def run? (s : State) : List Token → Option Tree
  | [] =>
    match s with
    | .finished t => some t
    | _ => none
  | t :: rest =>
    match step? s t with
    | some s => run? s rest
    | none => none

/-- The tree of a JSON text that holds one value and nothing after it. -/
def ofBytes? (bytes : List UInt8) : Option Tree := (Token.ofBytes? bytes).bind (run? (.value []))

end Tree

end AccessBroker.Json
