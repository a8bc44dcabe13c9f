/-
The answers to requests.

`/cookie` makes an access cookie for the client, `/token` and `/token/external`
exchange a credential for a token, `/access/` and an item tell its access mode,
and `/status` tells that the service is there. The answer hangs on the request,
the broker, the day, and the initial block that is drawn for a cookie; nothing
else is kept or asked for.
-/
import AccessBroker.Broker.Basic
import AccessBroker.Http.Request
import AccessBroker.Http.Response
import AccessBroker.Page.Basic

namespace AccessBroker.Broker

open Http

/-- What is asked for. -/
inductive Route where
  | status
  | cookie
  | token
  | externalToken
  /-- The access mode of an item, as it is spelled. -/
  | access (item : String)
  deriving DecidableEq

/-- What a path leads to, if to anything. -/
def Route.ofPath? (path : String) : Option Route :=
  if path = "/status" then some .status
  else if path = "/cookie" then some .cookie
  else if path = "/token" then some .token
  else if path = "/token/external" then some .externalToken
  else
    match Text.after? "/access/".toList path.toList with
    | some (c :: rest) => if '/' ∈ c :: rest then none else some (.access (String.ofList (c :: rest)))
    | _ => none

/-! ## Responses -/

/-- The response when something broke; it tells nothing of what. -/
def fault : Response := .json 500 (.object [("error", .text "Internal server error")])

/-- The response when no answer comes in time. -/
def timeout : Response := .bare 408

/-- The response that the service is there. -/
def statusResponse : Response := .json 200 (.object [("status", .text "ok")])

/-- The response to a request for a cookie without an origin. -/
def badOrigin : Response :=
  .page 400 (Page.refusal "Bad request" "The origin parameter must be an absolute URL.")

/-- The response when no cookie can be made. -/
def noCookie : Response :=
  .page 500 (Page.refusal "Service unavailable" "The access cookie could not be issued.")

/-- The response to a method that no route takes. -/
def badMethod : Response := ⟨405, [("allow", "GET,HEAD"), ("content-length", "0")], ""⟩

/-- The response where there is nothing. -/
def nothing (path : String) : Response :=
  if path.toList.head? = some '/' then ⟨404, [], ""⟩ else .bare 404

/-! ## Handlers -/

/-- The origin that a request for a cookie names. -/
def origin? (r : Request) : Option Url :=
  (firstNamed "origin" r.parameters).bind fun o => Url.parse? (Text.trim o)

/-- The response with a fresh cookie. -/
def mint (b : Broker) (initial : Cipher.Aes.Block) (client : Address) (origin : Url)
    (degraded : Bool) : Response :=
  let facts := AccessCookie.of client (b.classifier.isPrivileged client) degraded
  (Response.page 200
    (Page.cookie b.cipher.version origin.text facts b.cookie.windowCloseDelay)).setCookie
      (b.cookie.encoded (b.cipher.sealed initial facts))

/-- The response to a request for a cookie. -/
def cookieResponse (b : Broker) (initial : Cipher.Aes.Block) (r : Request) : Response :=
  match origin? r with
  | none => badOrigin
  | some origin =>
    match b.sources.degraded origin.text with
    | .value degraded => b.mint initial (r.client b.trustForwardedFor) origin degraded
    | .unavailable _ => noCookie
    | .broken => fault
    | .silent => timeout

/-- What is known of the client of a request. -/
def clientOf (b : Broker) (r : Request) : Client :=
  ⟨r.client b.trustForwardedFor, firstNamed "origin" r.parameters,
    firstNamed "messageId" r.parameters⟩

/-- The response that delivers an answer. -/
def deliver (reply : TokenReply) : Response :=
  match reply.delivery with
  | .json => .json reply.status reply.result.toJson
  | .page origin => .page reply.status (Page.token reply.result origin)

/-- The response to a request for a token. -/
def tokenResponse (b : Broker) (flow : TokenFlow) (today : Date) (r : Request) : Response :=
  deliver (flow.exchange b.expiresIn r.jar (b.clientOf r) today)

/-- The response about an item of which no mode can be told. -/
def itemFault (item : String) (f : ItemFault) : Response :=
  .json f.status (.object [("error", .text f.name), ("message", .text (f.message item))])

/-- The response about an item. -/
def itemResponse (b : Broker) (item : String) : Response :=
  match b.sources.modes item with
  | .value (some m) => .json 200 (.object [("accessMode", m.toJson)])
  | .value none => itemFault item .notFound
  | .unavailable _ => itemFault item .unavailable
  | .broken => fault
  | .silent => timeout

/-- The response about an item as it is spelled in a path. -/
def accessResponse (b : Broker) (spelled : String) : Response :=
  match Text.Percent.decode? spelled with
  | some item => b.itemResponse item
  | none => .withBody 400 .plain "Invalid URL: Invalid UTF-8 in `id`"

/-- The response of a route. -/
def routeResponse (b : Broker) (initial : Cipher.Aes.Block) (today : Date) (r : Request) :
    Route → Response
  | .status => statusResponse
  | .cookie => b.cookieResponse initial r
  | .token => b.tokenResponse b.primary today r
  | .externalToken => b.tokenResponse b.external today r
  | .access item => b.accessResponse item

/-- The response to a request. -/
def respond (b : Broker) (initial : Cipher.Aes.Block) (today : Date) (r : Request) : Response :=
  match Route.ofPath? r.target.path with
  | none => nothing r.target.path
  | some route =>
    if r.method = "GET" then b.routeResponse initial today r route
    else if r.method = "HEAD" then (b.routeResponse initial today r route).headOnly
    else badMethod

end AccessBroker.Broker
