/-
Responses.

The headers stand in the order of their names. A body comes with its length in
bytes and its type; asked for the head alone, the body is left out and the
headers stay.
-/
import AccessBroker.Json.Basic
import AccessBroker.Text.Utf8

namespace AccessBroker.Http

/-- What a body holds. -/
inductive ContentType where
  | json
  | html
  | plain
  deriving DecidableEq

/-- The type as it is told. -/
def ContentType.text : ContentType → String
  | json => "application/json"
  | html => "text/html; charset=utf-8"
  | plain => "text/plain; charset=utf-8"

/-- A response. -/
structure Response where
  status : Nat
  headers : List (String × String)
  body : String
  deriving DecidableEq

namespace Response

/-- The length of a body in bytes. -/
def length (body : String) : String := Text.natText (Text.Utf8.encode body).length

/-- A response with a body. -/
def withBody (status : Nat) (type : ContentType) (body : String) : Response :=
  ⟨status, [("content-length", length body), ("content-type", type.text)], body⟩

/-- A response with a JSON value. -/
def json (status : Nat) (j : Json) : Response := withBody status .json j.write

/-- A response with a page. -/
def page (status : Nat) (html : String) : Response := withBody status .html html

/-- A response of which only the status is told. -/
def bare (status : Nat) : Response := ⟨status, [("content-length", length "")], ""⟩

/-- The same response, with a cookie to keep. -/
def setCookie (r : Response) (line : String) : Response :=
  { r with headers := r.headers ++ [("set-cookie", line)] }

/-- The cookies that a response sets. -/
def cookies (r : Response) : List String :=
  (r.headers.filter fun (name, _) => name = "set-cookie").map Prod.snd

/-- The same response without its body. -/
def headOnly (r : Response) : Response := { r with body := "" }

end Response

end AccessBroker.Http
