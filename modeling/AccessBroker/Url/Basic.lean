/-
Addresses on the web.

An address is a scheme, perhaps an authority (user, host and port), a path, and
perhaps a query and a fragment. Under the schemes of the web the authority is
read whatever the number of slashes in front of it. `parse?` reads an address
that stands by itself; `text` writes one form for all spellings of it, and
`origin?` tells the scheme, host and port that pages of one origin share.
-/
import AccessBroker.Text.Blank
import AccessBroker.Url.Host
import AccessBroker.Url.Path

namespace AccessBroker

namespace Url

/-- Who and where: a user with a password, both perhaps empty, a host, and a port unless it is the
usual one. -/
structure Authority where
  user : String
  password : String
  host : Host
  port : Option Nat
  deriving DecidableEq

end Url

/-- An address on the web. -/
structure Url where
  scheme : String
  authority : Option Url.Authority
  path : Url.Path
  query : Option String
  fragment : Option String
  deriving DecidableEq

/-- What pages of one origin share. -/
structure Origin where
  scheme : String
  host : Host
  port : Nat
  deriving DecidableEq

namespace Url

/-- The usual port of a scheme of the web. -/
def usualPort? (scheme : String) : Option Nat :=
  [("http", 80), ("https", 443), ("ws", 80), ("wss", 443), ("ftp", 21)].lookup scheme

/-- Whether a scheme is one of the web, files included. -/
def isWeb (scheme : String) : Bool := (usualPort? scheme).isSome || scheme = "file"

/-! ## Writing -/

/-- The text of an authority. -/
def Authority.text (a : Authority) : String :=
  a.user ++ (if a.password.isEmpty then "" else ":" ++ a.password) ++
    (if a.user.isEmpty && a.password.isEmpty then "" else "@") ++ a.host.text ++
    (match a.port with
      | some p => ":" ++ Text.natText p
      | none => "")

/-- What stands between the scheme and the path: the authority, or a dot where the path would be
taken for one. -/
def authorityText (u : Url) : String :=
  match u.authority, u.path with
  | some a, _ => "//" ++ a.text
  | none, .segments ("" :: _ :: _) => "/."
  | none, _ => ""

/-- The text of an address. -/
def text (u : Url) : String :=
  u.scheme ++ ":" ++ u.authorityText ++ u.path.text ++
    (match u.query with
      | some q => "?" ++ q
      | none => "") ++
    (match u.fragment with
      | some f => "#" ++ f
      | none => "")

/-! ## Reading -/

/-- Whether a character may stand in a scheme after its first letter. -/
def isSchemeChar (c : Char) : Bool := c.isAlphanum || c = '+' || c = '-' || c = '.'

/-- The scheme in small letters, and what follows its colon. -/
def scheme? : List Char → Option (String × List Char)
  | [] => none
  | c :: cs =>
    if c.isAlpha then
      match (c :: cs).dropWhile isSchemeChar with
      | ':' :: rest =>
        some (String.ofList (((c :: cs).takeWhile isSchemeChar).map Text.asciiLower), rest)
      | _ => none
    else none

/-- Whether a character ends an authority. -/
def endsAuthority (web : Bool) (c : Char) : Bool :=
  c = '/' || c = '?' || c = '#' || (web && c = '\\')

/-- Whether a character of a user or a password is spelled by its bytes. -/
def inUser (c : Char) : Bool := Path.inPath c || "/:;=@[\\]^|".toList.contains c

/-- A user or a password. -/
def userText (cs : List Char) : String := String.ofList (Text.Percent.encodeChars inUser cs)

/-- The user and the password before the last `@` of the authority, and what follows it. -/
def user? (web : Bool) (cs : List Char) : Option ((String × String) × List Char) :=
  let region := cs.takeWhile fun c => !endsAuthority web c
  if region.contains '@' then
    let after := (region.reverse.takeWhile (· ≠ '@')).length
    let count := region.length - after - 1
    let rest := cs.drop (count + 1)
    if count = 0 then
      if rest.head?.any (endsAuthority web) then none else some (("", ""), rest)
    else
      match Text.splitFirst? ':' (cs.take count) with
      | some (user, password) => some ((userText user, userText password), rest)
      | none => some ((userText (cs.take count), ""), rest)
  else some (("", ""), cs)

/-- The characters of the host, and what follows; a colon in brackets does not end it. -/
def hostChars (web bracket : Bool) : List Char → List Char × List Char
  | [] => ([], [])
  | c :: cs =>
    if endsAuthority web c || (c = ':' && !bracket) then ([], c :: cs)
    else
      let (host, rest) :=
        hostChars web (if c = '[' then true else if c = ']' then false else bracket) cs
      (c :: host, rest)

/-- The port, unless it is the usual one or not told, and what follows. -/
def port? (scheme : String) (cs : List Char) : Option (Option Nat × List Char) :=
  match cs with
  | ':' :: cs =>
    let ds := cs.takeWhile fun c => (Text.digit? c).isSome
    let rest := cs.drop ds.length
    if rest.head?.all fun c => c = '/' || c = '\\' || c = '?' || c = '#' then
      if ds.isEmpty then some (none, rest)
      else
        match Text.digitsFrom 65535 0 ds with
        | .ok p => some (if usualPort? scheme = some p then none else some p, rest)
        | .error _ => none
    else none
  | cs => some (none, cs)

/-- The authority, and what follows it. -/
def authority? (scheme : String) (cs : List Char) : Option (Authority × List Char) := do
  let web := isWeb scheme
  let ((user, password), cs) ← user? web cs
  let (host, cs) := hostChars web false cs
  let host ← if web then Host.web? host else Host.plain? host
  if host.isEmpty ∧ (!user.isEmpty ∨ !password.isEmpty ∨ cs.head? = some ':') then none
  else
    let (port, cs) ← port? scheme cs
    some (⟨user, password, host, port⟩, cs)

/-- Whether a character of a query is spelled by its bytes. -/
def inQuery (web : Bool) (c : Char) : Bool := " \"#<>".toList.contains c || (web && c = '\x27')

/-- The query and the fragment that follow a path. -/
def tail (web : Bool) (cs : List Char) : Option String × Option String :=
  let front := cs.takeWhile (· ≠ '#')
  let fragment :=
    match cs.drop front.length with
    | _ :: f => some (String.ofList (Text.Percent.encodeChars Path.inFragment f))
    | [] => none
  match front with
  | '?' :: q => (some (String.ofList (Text.Percent.encodeChars (inQuery web) q)), fragment)
  | _ => (none, fragment)

/-- Whether a character ends a path. -/
def endsPath (c : Char) : Bool := c = '?' || c = '#'

/-- An address from its scheme, its authority, its path, and the characters after the path. -/
def finish (scheme : String) (authority : Option Authority) (path : Path) (cs : List Char) : Url :=
  let (query, fragment) := tail (isWeb scheme) (cs.dropWhile fun c => !endsPath c)
  ⟨scheme, authority, path, query, fragment⟩

/-- The path after an authority. -/
def pathAfter (web : Bool) (cs : List Char) : Path :=
  let path := cs.takeWhile fun c => !endsPath c
  match path with
  | [] => .segments (if web then [""] else [])
  | c :: rest =>
    .segments (Path.resolve false [] (Path.cut web (if c = '/' || (web && c = '\\') then rest else path)))

/-- An address whose authority stands at the front. -/
def withAuthority? (scheme : String) (cs : List Char) : Option Url :=
  (authority? scheme cs).map fun (a, rest) =>
    finish scheme (some a) (pathAfter (isWeb scheme) rest) rest

/-- An address of a file, from the host and the characters of its path. -/
def ofFile (host : Host) (cs : List Char) : Url :=
  let path := cs.takeWhile fun c => !endsPath c
  let ss := Path.ofFiles path
  let host := if ss.head?.any (Path.isDrive false) then .name "" else host
  finish "file" (some ⟨"", "", host, none⟩) (.segments ss) cs

/-- Whether a character is a slash of either kind. -/
def isSlash (c : Char) : Bool := c = '/' || c = '\\'

/-- An address of a file after its scheme. -/
def file? : List Char → Option Url
  | a :: b :: rest =>
    if isSlash a && isSlash b then
      let host := rest.takeWhile fun c => !endsAuthority true c
      if host.isEmpty || Path.isDrive true (String.ofList host) then some (ofFile (.name "") rest)
      else
        (Host.web? host).map fun h =>
          ofFile (if h = .name "localhost" then .name "" else h) (rest.drop host.length)
    else some (ofFile (.name "") (a :: b :: rest))
  | rest => some (ofFile (.name "") rest)

/-- An address under a scheme that is not one of the web, after its scheme. -/
def other? (scheme : String) : List Char → Option Url
  | '/' :: '/' :: rest => withAuthority? scheme rest
  | '/' :: rest =>
    let path := rest.takeWhile fun c => !endsPath c
    some (finish scheme none (.segments (Path.resolve false [] (Path.cut false path))) rest)
  | rest =>
    let path := rest.takeWhile fun c => !endsPath c
    some (finish scheme none
      (.opaqueText (String.ofList (Text.Percent.encodeChars (fun _ => false) path))) rest)

/-- The characters that are read: without controls and spaces at either end, tabs and line ends. -/
def readable (s : String) : List Char :=
  let isEdge (c : Char) : Bool := c.toNat ≤ 0x20
  let inner := ((s.toList.dropWhile isEdge).reverse.dropWhile isEdge).reverse
  inner.filter fun c => c ≠ '\t' && c ≠ '\n' && c ≠ '\r'

/-- Reads an address that stands by itself. -/
def parse? (s : String) : Option Url := do
  let (scheme, rest) ← scheme? (readable s)
  if scheme = "file" then file? rest
  else if isWeb scheme then withAuthority? scheme (rest.dropWhile isSlash)
  else other? scheme rest

/-! ## Origins -/

/-- The origin of an address that names one itself. -/
def ownOrigin? (u : Url) : Option Origin :=
  match u.authority, usualPort? u.scheme with
  | some a, some usual => some ⟨u.scheme, a.host, a.port.getD usual⟩
  | _, _ => none

/-- The origin of an address, or of the address that stands in its path, at most `steps` deep. -/
def originWithin? : Nat → Url → Option Origin
  | 0, u => u.ownOrigin?
  | steps + 1, u =>
    if u.scheme = "blob" then (parse? u.path.text).bind (originWithin? steps) else u.ownOrigin?

/-- The origin of an address; the schemes without hosts on the web have none. -/
def origin? (u : Url) : Option Origin := originWithin? u.path.text.length u

end Url

namespace Origin

/-- The text of an origin; the usual port is left out. -/
def text (o : Origin) : String :=
  o.scheme ++ "://" ++ o.host.text ++
    (if Url.usualPort? o.scheme = some o.port then "" else ":" ++ Text.natText o.port)

/-- The text by which an origin is known: that of its scheme, host and port; a text that is no
address with an origin stands for itself, without slashes at its end. -/
def key (s : String) : String :=
  let trimmed := Text.trim s
  match (Url.parse? trimmed).bind Url.origin? with
  | some o => o.text
  | none => String.ofList (trimmed.toList.reverse.dropWhile (· = '/')).reverse

end Origin

end AccessBroker
