/-
What a request asks for.

A target is a path with a query; or a whole address, with a scheme and a host in
front of them; or a host alone; or a star. A fragment does not count. The path
keeps its spelling.
-/
import AccessBroker.Text.Number
import AccessBroker.Text.Utf8

namespace AccessBroker.Http

/-- Why a text is no target. -/
inductive TargetFault where
  | tooLong
  | empty
  | invalidCharacter
  | invalidAuthority
  | invalidFormat
  | schemeTooLong
  deriving DecidableEq

namespace TargetFault

/-- The words that name the fault. -/
def message : TargetFault → String
  | tooLong => "uri too long"
  | empty => "empty string"
  | invalidCharacter => "invalid uri character"
  | invalidAuthority => "invalid authority"
  | invalidFormat => "invalid format"
  | schemeTooLong => "scheme too long"

end TargetFault

/-- A path and a query, both as spelled. -/
structure Target where
  path : String
  query : Option String
  deriving DecidableEq

namespace Target

/-- How many bytes a target may have. -/
def maxLength : Nat := 65534

/-- How many characters a scheme may have. -/
def maxScheme : Nat := 64

/-- Whether a character is outside plain ASCII. -/
def isWide (c : Char) : Bool := 0x7F ≤ c.toNat

/-- Whether a character may stand in a path. -/
def inPath (c : Char) : Bool :=
  isWide c || (0x20 < c.toNat && !"#<>?`".toList.contains c)

/-- Whether a character may stand in a query. -/
def inQuery (c : Char) : Bool := isWide c || (0x20 < c.toNat && !"\"#<>".toList.contains c)

/-- Whether a character may stand in a scheme. -/
def inScheme (c : Char) : Bool := c.isAlphanum || c = '+' || c = '-' || c = '.'

/-- Whether a character may stand in a host, or end it. -/
def inAuthority (c : Char) : Bool :=
  c.isAlphanum || "!#$&\x27()*+,-./:;=?@[]_~".toList.contains c

/-! ## Path and query -/

/-- A path with its query, up to the fragment. -/
def ofPath (cs : List Char) : Except TargetFault Target :=
  let path := cs.takeWhile fun c => c ≠ '?' && c ≠ '#'
  if !path.all inPath then .error .invalidCharacter
  else
    match cs.drop path.length with
    | '?' :: rest =>
      let query := rest.takeWhile (· ≠ '#')
      if query.all inQuery then .ok ⟨String.ofList path, some (String.ofList query)⟩
      else .error .invalidCharacter
    | _ => .ok ⟨String.ofList path, none⟩

/-! ## Host -/

/-- What is known of the part of a host that was read. -/
structure HostState where
  colons : Nat
  opened : Bool
  closed : Bool
  percent : Bool
  /-- Whether the last character was the mark behind the name of a user. -/
  afterUser : Bool

/-- The state after one more character. -/
def HostState.step (s : HostState) (c : Char) : Except TargetFault HostState :=
  let s := { s with afterUser := false }
  if c = ':' then
    if 8 ≤ s.colons then .error .invalidAuthority else .ok { s with colons := s.colons + 1 }
  else if c = '[' then
    if s.percent || s.opened then .error .invalidAuthority else .ok { s with opened := true }
  else if c = ']' then
    if !s.opened || s.closed then .error .invalidAuthority
    else .ok { s with closed := true, colons := 0, percent := false }
  else if c = '@' then .ok { s with colons := 0, percent := false, afterUser := true }
  else if c = '%' then .ok { s with percent := true }
  else if inAuthority c then .ok s
  else .error .invalidCharacter

/-- Whether a character ends a host. -/
def endsHost (c : Char) : Bool := c = '/' || c = '?' || c = '#'

/-- The host at the front. -/
def host (cs : List Char) : Except TargetFault (List Char) := do
  let name := cs.takeWhile (!endsHost ·)
  let s ← name.foldlM HostState.step ⟨0, false, false, false, false⟩
  if s.opened != s.closed || 1 < s.colons || s.afterUser || s.percent then .error .invalidAuthority
  else .ok name

/-- The characters after a scheme, if there is one. -/
def afterScheme (cs : List Char) : Except TargetFault (Option (List Char)) :=
  let lower := cs.map Text.asciiLower
  if (Text.after? "http://".toList lower).isSome then .ok (some (cs.drop 7))
  else if (Text.after? "https://".toList lower).isSome then .ok (some (cs.drop 8))
  else
    let scheme := cs.takeWhile inScheme
    match cs.drop scheme.length with
    | ':' :: '/' :: '/' :: rest =>
      if maxScheme < scheme.length then .error .schemeTooLong else .ok (some rest)
    | _ => .ok none

/-! ## Targets -/

/-- A target that begins neither with a slash nor is a star. -/
def ofAddress (cs : List Char) : Except TargetFault Target := do
  match ← afterScheme cs with
  | none =>
    let name ← host cs
    if name.length = cs.length then .ok ⟨"", none⟩ else .error .invalidFormat
  | some rest =>
    let name ← host rest
    if name.isEmpty then .error .invalidFormat
    else
      let t ← ofPath (rest.drop name.length)
      .ok (if t.path.isEmpty then ⟨"/", t.query⟩ else t)

/-- Reads a target. -/
def ofText (s : String) : Except TargetFault Target :=
  if maxLength < s.utf8ByteSize then .error .tooLong
  else
    match s.toList with
    | [] => .error .empty
    | ['/'] => .ok ⟨"/", none⟩
    | ['*'] => .ok ⟨"*", none⟩
    | [c] => do
      let name ← host [c]
      if name.isEmpty then .error .invalidCharacter else .ok ⟨"", none⟩
    | '/' :: rest => ofPath ('/' :: rest)
    | cs => ofAddress cs

end Target

end AccessBroker.Http
