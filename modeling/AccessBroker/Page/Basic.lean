/-
The pages of the service.

Each page is a fixed text with a few places, which are filled with values as
they are written in pages or in scripts.
-/
import AccessBroker.Credential.AccessCookie
import AccessBroker.Page.Markup
import AccessBroker.Token.Result

namespace AccessBroker.Page

/-- What every page begins with, up to its title. -/
def head : String :=
  "<!DOCTYPE html>
<html>
<head>
<meta charset=\"utf-8\">
<title>"

/-- What stands between the title and the body. -/
def body : String :=
  "</title>
</head>
<body>
"

/-- What every page ends with. -/
def foot : String :=
  "</body>
</html>
"

/-- The page that posts the result of a request for a token to an origin. -/
def token (result : TokenResult) (origin : String) : String :=
  head ++ "Access token" ++ body ++
    "<script>
window.parent.postMessage(" ++ script result.toJson ++ ", " ++ script (.text origin) ++ ");
</script>
" ++ foot

/-- How many thousandths of a second a page stays open, within 64 bits. -/
def delay (seconds : UInt64) : Nat := min (1000 * seconds.toNat) (Nat.pow 2 64 - 1)

/-- A fact, as it is shown. -/
def flag (b : Bool) : String := if b then "true" else "false"

/-- The page that shows what was sealed into a cookie, and closes after some seconds. -/
def cookie (version origin : String) (c : AccessCookie) (seconds : UInt64) : String :=
  head ++ "Access granted" ++ body ++
    "<h1>Access cookie issued</h1>
<dl>
<dt>Service version</dt><dd>" ++ escape version ++ "</dd>
<dt>Origin</dt><dd>" ++ escape origin ++ "</dd>
<dt>Client IP address</dt><dd>" ++ escape c.address ++ "</dd>
<dt>Campus network</dt><dd>" ++ flag c.campus ++ "</dd>
<dt>Degraded access allowed</dt><dd>" ++ flag c.degraded ++ "</dd>
</dl>
<p>This window will close automatically.</p>
<script>
window.setTimeout(function () \x7b window.close(); \x7d, " ++ Text.natText (delay seconds) ++ ");
</script>
" ++ foot

/-- The page that says why a request is refused. -/
def refusal (title detail : String) : String :=
  head ++ escape title ++ body ++ "<h1>" ++ escape title ++ "</h1>
<p>" ++ escape detail ++ "</p>
" ++ foot

end AccessBroker.Page
