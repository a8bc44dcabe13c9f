/-
Cookies made and given back.

A cookie is set only where one is made, once, and its pair is its name and the
sealed facts (`cookieResponse_ok`). Sent back alone it is found in the jar and
opened with the key it was sealed with, so that the way by the access cookie
comes to the token for the facts or to a refusal, by the address that presents
it (`issue_sealed`). `mint_then_exchange` puts the two requests together: for
every broker, every two clients and every initial block.
-/
import AccessBroker.Broker.Routes
import AccessBroker.Proofs.Broker.Basic
import AccessBroker.Proofs.Config.Validation
import AccessBroker.Proofs.Cookie.Jar
import AccessBroker.Proofs.Credential.AccessCookie
import AccessBroker.Proofs.Credential.External
import AccessBroker.Proofs.Token.Basic
import AccessBroker.Proofs.Token.Result

namespace AccessBroker

/-! ## Requests and responses -/

namespace Http.Request

@[simp] theorem canonical_client (r : Request) (trust : Bool) :
    (r.client trust).canonical = r.client trust :=
  Address.canonical_canonical _

/-- Without trust in a proxy no header tells the address of the client. -/
theorem client_false (r : Request) : r.client false = r.peer.canonical := rfl

theorem parameters_of_no_query {r : Request} (h : r.target.query = none) : r.parameters = [] := by
  rw [parameters, h]
  rfl

end Http.Request

namespace Http.Response

@[simp] theorem cookies_setCookie (r : Response) (line : String) :
    (r.setCookie line).cookies = r.cookies ++ [line] := by
  simp [cookies, setCookie]

@[simp] theorem cookies_page (status : Nat) (html : String) : (page status html).cookies = [] := by
  simp [cookies, page, withBody]

end Http.Response

namespace Broker

open Http

theorem respond_get {b : Broker} {initial : Cipher.Aes.Block} {today : Date} {r : Request}
    {route : Route} (hmethod : r.method = "GET") (hroute : Route.ofPath? r.target.path = some route) :
    b.respond initial today r = b.routeResponse initial today r route := by
  rw [respond, hroute]
  simp only [hmethod, if_true]

theorem respond_get_token {b : Broker} {initial : Cipher.Aes.Block} {today : Date} {r : Request}
    (hmethod : r.method = "GET") (hpath : r.target.path = "/token") :
    b.respond initial today r = b.tokenResponse b.primary today r := by
  have hroute : Route.ofPath? r.target.path = some .token := by
    rw [hpath]
    rfl
  exact respond_get hmethod hroute

theorem respond_get_externalToken {b : Broker} {initial : Cipher.Aes.Block} {today : Date}
    {r : Request} (hmethod : r.method = "GET") (hpath : r.target.path = "/token/external") :
    b.respond initial today r = b.tokenResponse b.external today r := by
  have hroute : Route.ofPath? r.target.path = some .externalToken := by
    rw [hpath]
    rfl
  exact respond_get hmethod hroute

theorem respond_get_cookie {b : Broker} {initial : Cipher.Aes.Block} {today : Date} {r : Request}
    (hmethod : r.method = "GET") (hpath : r.target.path = "/cookie") :
    b.respond initial today r = b.cookieResponse initial r := by
  have hroute : Route.ofPath? r.target.path = some .cookie := by
    rw [hpath]
    rfl
  exact respond_get hmethod hroute

/-! ## Making a cookie -/

/-- The facts that a cookie is made with for a client. -/
def facts (b : Broker) (client : Address) (degraded : Bool) : AccessCookie :=
  .of client (b.classifier.isPrivileged client) degraded

theorem cookies_mint (b : Broker) (initial : Cipher.Aes.Block) (client : Address) (origin : Url)
    (degraded : Bool) : (b.mint initial client origin degraded).cookies =
      [b.cookie.encoded (b.cipher.sealed initial (b.facts client degraded))] := by
  rw [mint, Response.cookies_setCookie, Response.cookies_page]
  rfl

/-- A good answer to a request for a cookie sets one cookie, made for the client. -/
theorem cookieResponse_ok {b : Broker} {initial : Cipher.Aes.Block} {r : Request}
    (h : (b.cookieResponse initial r).status = 200) : ∃ degraded,
      (b.cookieResponse initial r).cookies =
        [b.cookie.encoded (b.cipher.sealed initial
          (b.facts (r.client b.trustForwardedFor) degraded))] := by
  rw [cookieResponse] at h ⊢
  split at h
  · cases h
  · next origin _ =>
    split at h
    · next degraded _ => exact ⟨degraded, cookies_mint b initial _ origin degraded⟩
    · cases h
    · cases h
    · cases h

theorem status_cookieResponse {b : Broker} {initial : Cipher.Aes.Block} {r : Request} {origin : Url}
    {degraded : Bool} (horigin : origin? r = some origin)
    (hdegraded : b.sources.degraded origin.text = .value degraded) :
    (b.cookieResponse initial r).status = 200 := by
  simp only [cookieResponse, horigin, hdegraded]
  rfl

/-! ## Giving it back -/

/-- What the way by the access cookie comes to when the jar holds sealed facts. -/
theorem issue_sealed {c : CookieCipher} {name : String} {jar : Cookie.Jar}
    {initial : Cipher.Aes.Block} {a : Address} {campus degraded : Bool}
    (hjar : jar.get? name = some (c.sealed initial (.of a campus degraded))) (client : Client) :
    (PrimaryFlow.mk c name).issue jar client =
      if a.canonical = client.address.canonical then .ok (.campus c.version campus)
      else .error .invalidCredentials := by
  simp only [PrimaryFlow.issue, hjar, CookieCipher.opened_sealed rfl]
  by_cases h : a.canonical = client.address.canonical
  · simp only [if_pos h]
    rfl
  · simp only [if_neg h]
    rfl

/-- A response that gives a token. -/
structure GivesToken (resp : Response) (token : AccessToken) : Prop where
  status : resp.status = 200
  type : ("content-type", "application/json") ∈ resp.headers
  body : ∃ s, TokenResult.read? resp.body = some (.success s) ∧
    AccessToken.decode? s.accessToken = some token

/-- A response that gives a machine the fault for which it gets no token. -/
structure Refuses (resp : Response) (status : Nat) (e : TokenFault) : Prop where
  status : resp.status = status
  type : ("content-type", "application/json") ∈ resp.headers
  body : TokenResult.read? resp.body = some (.refused e none)

/-- A request for a token that has no query is answered in JSON. -/
theorem tokenResponse_of_no_query {b : Broker} {flow : TokenFlow} {today : Date} {r : Request}
    (hquery : r.target.query = none) : b.tokenResponse flow today r =
      let result := flow.result b.expiresIn r.jar (b.clientOf r) today none
      .json ((result.fault?.map TokenFault.status).getD 200) result.toJson := by
  have hbrowser : (b.clientOf r).browser? = none := by
    rw [clientOf, Request.parameters_of_no_query hquery]
    rfl
  rw [tokenResponse, TokenFlow.exchange, hbrowser]
  rfl

theorem givesToken_of_issue {b : Broker} {flow : TokenFlow} {today : Date} {r : Request}
    {token : AccessToken} (hquery : r.target.query = none)
    (hissue : flow.issue r.jar (b.clientOf r) today = .ok token) :
    GivesToken (b.tokenResponse flow today r) token := by
  have hresult : flow.result b.expiresIn r.jar (b.clientOf r) today none =
      .given token b.expiresIn none := by
    rw [TokenFlow.result, hissue]
  rw [tokenResponse_of_no_query hquery, hresult]
  refine ⟨rfl, by simp [Response.json, Response.withBody, ContentType.text], ?_⟩
  exact ⟨_, TokenResult.read?_write (.given token b.expiresIn none), AccessToken.decode?_encode token⟩

theorem refuses_of_issue {b : Broker} {flow : TokenFlow} {today : Date} {r : Request}
    {e : TokenFault} (hquery : r.target.query = none)
    (hissue : flow.issue r.jar (b.clientOf r) today = .error e) :
    Refuses (b.tokenResponse flow today r) e.status e := by
  have hresult : flow.result b.expiresIn r.jar (b.clientOf r) today none = .refused e none := by
    rw [TokenFlow.result, hissue]
  rw [tokenResponse_of_no_query hquery, hresult]
  refine ⟨rfl, by simp [Response.json, Response.withBody, ContentType.text], ?_⟩
  exact TokenResult.read?_write (.refused e none)

/-! ## The two requests -/

/-- A request whose only header of cookies is the pair of a line has the cookie of the line. -/
theorem get?_jar_of_pair {s : Cookie.Settings} (hname : s.name ≠ "") {value : String} {r : Request}
    (h : r.values "cookie" = [Text.Utf8.encode (Cookie.pairOf (s.encoded value))]) :
    r.jar.get? s.name = some value := by
  rw [Request.jar, h, Text.Utf8.encode, Cookie.pairOf_encoded]
  exact Cookie.get?_ofHeaders_pair hname value

/-- The cookie that an answer sets, sent back alone, comes to a token for the facts it was made
with if the same client presents it, and to a refusal otherwise. -/
theorem tokenResponse_of_cookieResponse {b : Broker} (hname : b.cookie.name ≠ "")
    {initial : Cipher.Aes.Block} {r : Request} (hstatus : (b.cookieResponse initial r).status = 200) :
    ∃ line, (b.cookieResponse initial r).cookies = [line] ∧
      ∀ (today : Date) (r' : Request), r'.target.query = none →
        r'.values "cookie" = [Text.Utf8.encode (Cookie.pairOf line)] →
        (r.client b.trustForwardedFor = r'.client b.trustForwardedFor →
          GivesToken (b.tokenResponse b.primary today r') (.campus b.cipher.version
            (b.classifier.isPrivileged (r.client b.trustForwardedFor)))) ∧
        (r.client b.trustForwardedFor ≠ r'.client b.trustForwardedFor →
          Refuses (b.tokenResponse b.primary today r') 400 .invalidCredentials) := by
  obtain ⟨degraded, hcookies⟩ := cookieResponse_ok hstatus
  refine ⟨_, hcookies, ?_⟩
  intro today r' hquery hvalues
  have hissue := issue_sealed (get?_jar_of_pair hname hvalues) (b.clientOf r')
  have hclient : (b.clientOf r').address.canonical = r'.client b.trustForwardedFor :=
    Request.canonical_client r' _
  rw [Request.canonical_client, hclient] at hissue
  constructor
  · intro heq
    rw [if_pos heq] at hissue
    exact givesToken_of_issue hquery hissue
  · intro hne
    rw [if_neg hne] at hissue
    have hrefuses : Refuses (b.tokenResponse b.primary today r')
        TokenFault.invalidCredentials.status .invalidCredentials :=
      refuses_of_issue hquery hissue
    exact hrefuses

/-! ## A sample broker -/

/-- A valid configuration whose privileged network is the local one. -/
def sampleConfig : Config := { Config.sample "password" with subnets := ["127.0.0.0/8"] }

/-- A day. -/
def sampleDay : Date := ⟨2024, 2, 27, by decide, by decide, by decide⟩

/-- A request for a cookie from 127.0.0.1. -/
def sampleMint : Request :=
  ⟨"GET", ⟨"/cookie", some "origin=https://viewer.example.org"⟩, [], .v4 ⟨0x7F000001⟩⟩

/-- A request for a token that carries the pair of a line and claims to be forwarded. -/
def sampleExchange (line : String) (peer : Address) : Request :=
  ⟨"GET", ⟨"/token", none⟩,
    [("x-forwarded-for", Text.Utf8.encode "127.0.0.1"),
      ("cookie", Text.Utf8.encode (Cookie.pairOf line))], peer⟩

theorem exists_ofConfig_sampleConfig : ∃ b,
    ofConfig sampleConfig .empty (.ofConfig sampleConfig) = .ok b ∧
      b.classifier.isPrivileged (.v4 ⟨0x7F000001⟩) = true ∧
      b.sources = .ofConfig sampleConfig := by
  have hlocal : (Network.Classifier.ofTexts sampleConfig.subnets).toOption.map
      (·.isPrivileged (.v4 ⟨0x7F000001⟩)) = some true := by decide +kernel
  obtain ⟨classifier, hclassifier, hprivileged⟩ := Option.map_eq_some_iff.mp hlocal
  obtain ⟨b, hb, rfl, hsources⟩ := exists_ofConfig_sample (c := sampleConfig)
    (.ofConfig sampleConfig) rfl rfl (eq_ok_of_toOption hclassifier)
  exact ⟨b, hb, hprivileged, hsources⟩

/-! ## Made and given back -/

/-- **A cookie that is made and given back.** For every valid configuration and every initial
block, the pair of the one cookie that a good answer to `/cookie` sets, sent back unchanged as the
header of cookies of a request to `/token` without a query, comes to a token with the version of
the service and the privilege of the first client if both clients have one address, and to the
fault of invalid credentials otherwise. Without trust in a proxy a client is its peer. -/
theorem mint_then_exchange {c : Config} (hc : c.IsValid) {env : Environment} {sources : Sources}
    {b : Broker} (hb : ofConfig c env sources = .ok b) {initial : Cipher.Aes.Block} {today : Date}
    {r : Request} (hmethod : r.method = "GET") (hpath : r.target.path = "/cookie")
    (hstatus : (b.respond initial today r).status = 200) :
    (c.server.trustForwardedFor = false →
      ∀ q : Request, q.client c.server.trustForwardedFor = q.peer.canonical) ∧
    ∃ line, (b.respond initial today r).cookies = [line] ∧
      ∀ (initial' : Cipher.Aes.Block) (today' : Date) (r' : Request), r'.method = "GET" →
        r'.target.path = "/token" → r'.target.query = none →
        r'.values "cookie" = [Text.Utf8.encode (Cookie.pairOf line)] →
        (r.client c.server.trustForwardedFor = r'.client c.server.trustForwardedFor →
          GivesToken (b.respond initial' today' r') (.campus c.version
            (b.classifier.isPrivileged (r.client c.server.trustForwardedFor)))) ∧
        (r.client c.server.trustForwardedFor ≠ r'.client c.server.trustForwardedFor →
          Refuses (b.respond initial' today' r') 400 .invalidCredentials) := by
  obtain ⟨hversion, hcookie, htrust⟩ := settings_of_ofConfig hb
  have hname : b.cookie.name ≠ "" := by
    rw [hcookie]
    exact hc.ne_empty (show ("cookie.name", c.cookie.name) ∈ c.required by simp [Config.required])
  refine ⟨fun hoff q => by rw [hoff, Request.client_false], ?_⟩
  rw [respond_get_cookie hmethod hpath] at hstatus ⊢
  obtain ⟨line, hline, h⟩ := tokenResponse_of_cookieResponse hname hstatus
  refine ⟨line, hline, ?_⟩
  intro initial' today' r' hmethod' hpath' hquery hvalues
  rw [respond_get_token hmethod' hpath', ← hversion, ← htrust]
  exact h today' r' hquery hvalues

/-- 127.0.0.1 makes a cookie on the privileged network and exchanges it; 127.0.0.2 is refused,
though it says that it asks for 127.0.0.1. -/
theorem mint_then_exchange_local : sampleConfig.IsValid ∧
    ∃ b, ofConfig sampleConfig .empty (.ofConfig sampleConfig) = .ok b ∧
      (b.respond .zero sampleDay sampleMint).status = 200 ∧
      ∃ line, (b.respond .zero sampleDay sampleMint).cookies = [line] ∧
        GivesToken (b.respond .zero sampleDay (sampleExchange line (.v4 ⟨0x7F000001⟩)))
          (.campus "1.0.0" true) ∧
        Refuses (b.respond .zero sampleDay (sampleExchange line (.v4 ⟨0x7F000002⟩))) 400
          .invalidCredentials := by
  have hsample : (Config.sample "password").IsValid :=
    Config.isValid_ofSecrets_iff.mpr ⟨by decide, by decide, by decide⟩
  -- The blocks are not checked with the settings.
  have hc : sampleConfig.IsValid := hsample
  obtain ⟨b, hb, hprivileged, hsources⟩ := exists_ofConfig_sampleConfig
  have horigin : (origin? sampleMint).isSome = true := by decide +kernel
  obtain ⟨origin, horigin⟩ := Option.isSome_iff_exists.mp horigin
  have hstatus : (b.respond .zero sampleDay sampleMint).status = 200 := by
    rw [respond_get_cookie rfl rfl]
    exact status_cookieResponse horigin (by rw [hsources]; rfl)
  obtain ⟨-, line, hline, h⟩ := mint_then_exchange hc hb rfl rfl hstatus
  have hother : Address.canonical (.v4 ⟨0x7F000001⟩) ≠ Address.canonical (.v4 ⟨0x7F000002⟩) := by
    decide
  refine ⟨hc, b, hb, hstatus, line, hline, ?_, ?_⟩
  · have hsame := (h .zero sampleDay (sampleExchange line (.v4 ⟨0x7F000001⟩)) rfl rfl rfl rfl).1 rfl
    rw [← hprivileged]
    exact hsame
  · exact (h .zero sampleDay (sampleExchange line (.v4 ⟨0x7F000002⟩)) rfl rfl rfl rfl).2 hother

end Broker

end AccessBroker
