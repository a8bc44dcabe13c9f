/-
What the parameters of a browser do to an answer.

Whether a token is given hangs on the cookies, the address and the day, and on
no parameter: both ways to a token come to the same for a request with a query
and for the same request without one. The query decides how the outcome is told
(`respond_parameters`): with an origin and a number for the message it is posted
by a page, with that number added; with anything else it is the answer to the
request without a query.
-/
import AccessBroker.Proofs.Broker.Routes
import AccessBroker.Proofs.Page.Script

namespace AccessBroker

/-! ## What is told -/

namespace TokenFlow

/-- What is told of an outcome, apart from the number of a message. -/
def told (expiresIn : Option UInt64) : Except TokenFault AccessToken → List (String × Json)
  | .ok token =>
    [("accessToken", .text token.encode)] ++ TokenResult.optional "expiresIn" Json.ofWord expiresIn
  | .error e => [("error", .text e.name), ("message", .text e.message)]

theorem toJson_result (f : TokenFlow) (expiresIn : Option UInt64) (jar : Cookie.Jar)
    (client : Client) (today : Date) (messageId : Option String) :
    (f.result expiresIn jar client today messageId).toJson =
      .object (told expiresIn (f.issue jar client today) ++
        TokenResult.optional "messageId" .text messageId) := by
  rw [result]
  cases f.issue jar client today with
  | ok token => rfl
  | error e => rfl

theorem messageId_not_mem_told (expiresIn : Option UInt64)
    (outcome : Except TokenFault AccessToken) :
    "messageId" ∉ (told expiresIn outcome).map Prod.fst := by
  cases outcome with
  | ok token => cases expiresIn <;> simp [told, TokenResult.optional]
  | error e => simp [told]

end TokenFlow

namespace Broker

open Http

/-! ## Faults of a client -/

/-- A fault that a client can do something about. -/
def IsClientFault (e : TokenFault) : Prop := e = .missingCredentials ∨ e = .invalidCredentials

theorem isClientFault_of_sorts {outcome : Except TokenFault AccessToken} {present : Prop}
    {good : AccessToken → Prop} (h : Sorts outcome present good) {e : TokenFault}
    (he : outcome = .error e) : IsClientFault e := by
  cases e with
  | missingCredentials => exact .inl rfl
  | invalidCredentials => exact .inr rfl
  | unavailable => exact absurd he h.ne_unavailable

theorem isClientFault_of_primary {b : Broker} {jar : Cookie.Jar} {client : Client} {today : Date}
    {e : TokenFault} (h : b.primary.issue jar client today = .error e) : IsClientFault e :=
  isClientFault_of_sorts (b.sorts_primary jar client today) h

theorem isClientFault_of_external {b : Broker} {jar : Cookie.Jar} {client : Client} {today : Date}
    {e : TokenFault} (h : b.external.issue jar client today = .error e) : IsClientFault e :=
  isClientFault_of_sorts (b.sorts_external jar client today) h

/-! ## The answer without a query -/

/-- A response that tells a machine whether there is a token for it, by the members of an object. -/
structure Tells (resp : Response) (members : List (String × Json)) : Prop where
  type : ("content-type", "application/json") ∈ resp.headers
  body : Json.read? resp.body = some (.object members)
  unnumbered : "messageId" ∉ members.map Prod.fst
  outcome : (resp.status = 200 ∧ ∃ token, members.lookup "accessToken" = some (.text token)) ∨
    (resp.status = 400 ∧ members.lookup "accessToken" = none ∧
      ∃ e, IsClientFault e ∧ members.lookup "error" = some (.text e.name))

/-- A request for a token with a query, and the same request without one. -/
def bare (r : Request) : Request := { r with target := ⟨r.target.path, none⟩ }

theorem tells_of_no_query {b : Broker} {flow : TokenFlow} {today : Date} {r : Request}
    (hquery : r.target.query = none)
    (hfault : ∀ e, flow.issue r.jar (b.clientOf r) today = .error e → IsClientFault e) :
    Tells (b.tokenResponse flow today r)
      (TokenFlow.told b.expiresIn (flow.issue r.jar (b.clientOf r) today)) := by
  have hjson := flow.toJson_result b.expiresIn r.jar (b.clientOf r) today none
  rw [TokenResult.optional, List.append_nil] at hjson
  rw [tokenResponse_of_no_query hquery]
  refine ⟨by simp [Response.json, Response.withBody, ContentType.text], ?_,
    TokenFlow.messageId_not_mem_told _ _, ?_⟩
  · rw [← hjson]
    refine Json.read?_write (TokenResult.isExact_toJson _) ?_
    rw [TokenResult.depth_toJson]
    decide
  · rw [TokenFlow.result]
    cases hissue : flow.issue r.jar (b.clientOf r) today with
    | ok token => exact .inl ⟨rfl, token.encode, rfl⟩
    | error e =>
      have hclient := hfault e hissue
      refine .inr ⟨?_, rfl, e, hclient, rfl⟩
      rcases hclient with rfl | rfl
      · rfl
      · rfl

/-! ## The answer with a query -/

/-- The response is a page that posts an object to an origin. -/
structure PostsObject (resp : Response) (members : List (String × Json)) (origin : String) :
    Prop where
  status : resp.status = 200
  type : ("content-type", "text/html; charset=utf-8") ∈ resp.headers
  body : Page.Posts resp.body (.object members) origin

theorem postsObject_of_parameters {b : Broker} {flow : TokenFlow} {today : Date} {r : Request}
    {id origin : String} (hid : firstNamed "messageId" r.parameters = some id)
    (horigin : firstNamed "origin" r.parameters = some origin) :
    PostsObject (b.tokenResponse flow today r)
      (TokenFlow.told b.expiresIn (flow.issue r.jar (b.clientOf r) today) ++
        [("messageId", .text id)]) origin := by
  have hbrowser : (b.clientOf r).browser? = some (origin, id) := by
    rw [clientOf, hid, horigin]
    rfl
  have hjson := flow.toJson_result b.expiresIn r.jar (b.clientOf r) today (some id)
  rw [TokenResult.optional] at hjson
  rw [tokenResponse, TokenFlow.exchange, hbrowser]
  refine ⟨rfl, by simp [deliver, Response.page, Response.withBody, ContentType.text], ?_⟩
  rw [← hjson]
  exact Page.posts_token _ origin

theorem tokenResponse_eq_of_parameters {b : Broker} {flow : TokenFlow} {today : Date} {r : Request}
    (hissue : flow.issue r.jar (b.clientOf r) today = flow.issue r.jar (b.clientOf (bare r)) today)
    (hnone : firstNamed "messageId" r.parameters = none ∨ firstNamed "origin" r.parameters = none) :
    b.tokenResponse flow today r = b.tokenResponse flow today (bare r) := by
  have hbrowser : (b.clientOf r).browser? = none := by
    rcases hnone with hnone | hnone
    · rw [clientOf, hnone]
      cases firstNamed "origin" r.parameters <;> rfl
    · rw [clientOf, hnone]
      rfl
  have hresult : flow.result b.expiresIn r.jar (b.clientOf r) today none =
      flow.result b.expiresIn (bare r).jar (b.clientOf (bare r)) today none := by
    rw [TokenFlow.result, hissue]
    rfl
  rw [tokenResponse_of_no_query (r := bare r) rfl, tokenResponse, TokenFlow.exchange, hbrowser,
    hresult]
  rfl

theorem tokenResponse_of_parameters {b : Broker} {flow : TokenFlow} {today : Date} {r : Request}
    (hissue : flow.issue r.jar (b.clientOf r) today = flow.issue r.jar (b.clientOf (bare r)) today)
    (hfault : ∀ e, flow.issue r.jar (b.clientOf r) today = .error e → IsClientFault e) :
    ∃ members, Tells (b.tokenResponse flow today (bare r)) members ∧
      match firstNamed "messageId" r.parameters, firstNamed "origin" r.parameters with
      | some id, some origin =>
        PostsObject (b.tokenResponse flow today r) (members ++ [("messageId", .text id)]) origin
      | _, _ => b.tokenResponse flow today r = b.tokenResponse flow today (bare r) := by
  refine ⟨TokenFlow.told b.expiresIn (flow.issue r.jar (b.clientOf r) today), ?_, ?_⟩
  · rw [hissue] at hfault ⊢
    exact tells_of_no_query rfl hfault
  · split
    · next hid horigin => exact postsObject_of_parameters hid horigin
    · next hnot =>
      refine tokenResponse_eq_of_parameters hissue ?_
      cases hid : firstNamed "messageId" r.parameters with
      | none => exact .inl rfl
      | some id =>
        cases horigin : firstNamed "origin" r.parameters with
        | none => exact .inr rfl
        | some origin => exact (hnot id origin hid horigin).elim

/-- **Parameters shape an answer and never its outcome.** Without a query every request for a token
is told in JSON whether there is one. With a query that gives a number for the message and an
origin, the answer is a page that posts what is told and the first such number to the first such
origin; with any other query it is the answer without a query. -/
theorem respond_parameters (b : Broker) (initial : Cipher.Aes.Block) (today : Date) {r : Request}
    (hmethod : r.method = "GET")
    (hpath : r.target.path = "/token" ∨ r.target.path = "/token/external") :
    ∃ members, Tells (b.respond initial today (bare r)) members ∧
      match firstNamed "messageId" r.parameters, firstNamed "origin" r.parameters with
      | some id, some origin =>
        PostsObject (b.respond initial today r) (members ++ [("messageId", .text id)]) origin
      | _, _ => b.respond initial today r = b.respond initial today (bare r) := by
  rcases hpath with hpath | hpath
  · have hbare : (bare r).target.path = "/token" := hpath
    rw [respond_get_token hmethod hpath, respond_get_token (r := bare r) hmethod hbare]
    exact tokenResponse_of_parameters rfl fun e => isClientFault_of_primary
  · have hbare : (bare r).target.path = "/token/external" := hpath
    rw [respond_get_externalToken hmethod hpath,
      respond_get_externalToken (r := bare r) hmethod hbare]
    exact tokenResponse_of_parameters rfl fun e => isClientFault_of_external

/-- A request for a token with parameters that are spelled out, repeated and broken. -/
def sampleParameters : Request :=
  ⟨"GET", ⟨"/token", some "messageId=1+2&origin=https%3A%2F%2Fviewer.example.org&messageId=3&%FF=%"⟩,
    [], .v4 ⟨0x7F000001⟩⟩

/-- The first number counts, with a space for the plus sign. -/
theorem respond_parameters_repeated : ∃ b,
    ofConfig sampleConfig .empty (.ofConfig sampleConfig) = .ok b ∧
      (sampleParameters.method = "GET" ∧ (sampleParameters.target.path = "/token" ∨
        sampleParameters.target.path = "/token/external")) ∧
      ∃ members, Tells (b.respond .zero sampleDay (bare sampleParameters)) members ∧
        PostsObject (b.respond .zero sampleDay sampleParameters)
          (members ++ [("messageId", .text "1 2")]) "https://viewer.example.org" := by
  obtain ⟨b, hb, -, -⟩ := exists_ofConfig_sampleConfig
  have hid : firstNamed "messageId" sampleParameters.parameters = some "1 2" := by decide +kernel
  have horigin : firstNamed "origin" sampleParameters.parameters =
      some "https://viewer.example.org" := by decide +kernel
  obtain ⟨members, htells, hposts⟩ :=
    respond_parameters b .zero sampleDay (r := sampleParameters) rfl (.inl rfl)
  rw [hid, horigin] at hposts
  exact ⟨b, hb, ⟨rfl, .inl rfl⟩, members, htells, hposts⟩

end Broker

end AccessBroker
