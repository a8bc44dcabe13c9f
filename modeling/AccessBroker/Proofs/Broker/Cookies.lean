/-
The requests that get a cookie.

One answer alone sets a cookie, that to a request for `/cookie` that names an origin whose flag is
there (`respond_cookies`). The cookie and the page of this answer are made of the same facts, so that
the cookie opens to what the page shows (`respond_of_mints`). The two answers to requests for
`/cookie` that get none are fixed pages.
-/
import AccessBroker.Proofs.Broker.Routes
import AccessBroker.Proofs.Page.Facts

namespace AccessBroker

namespace Http.Response

@[simp] theorem cookies_withBody (status : Nat) (type : ContentType) (body : String) :
    (withBody status type body).cookies = [] := by
  simp [cookies, withBody]

@[simp] theorem cookies_json (status : Nat) (j : Json) : (json status j).cookies = [] :=
  cookies_withBody status .json j.write

@[simp] theorem cookies_headOnly (r : Response) : r.headOnly.cookies = r.cookies := rfl

end Http.Response

namespace Broker

open Http

variable {b : Broker} {initial : Cipher.Aes.Block} {today : Date} {r : Request}

/-- A request that asks for a cookie. -/
structure AsksForCookie (r : Request) : Prop where
  method : r.method = "GET" ∨ r.method = "HEAD"
  path : r.target.path = "/cookie"

/-- A request that asks for a cookie and names an origin that has a flag. -/
structure Mints (b : Broker) (r : Request) (u : Url) (degraded : Bool) : Prop extends
    AsksForCookie r where
  origin : origin? r = some u
  flag : b.sources.degraded u.text = .value degraded

/-! ## Answers without cookies -/

theorem Route.ofPath?_eq_cookie_iff {path : String} :
    ofPath? path = some .cookie ↔ path = "/cookie" := by
  constructor
  · intro h
    unfold ofPath? at h
    split at h
    · cases h
    split at h
    · assumption
    split at h
    · cases h
    split at h
    · cases h
    split at h
    · split at h
      · cases h
      · cases h
    · cases h
  · rintro rfl
    rfl

theorem cookies_tokenResponse (flow : TokenFlow) : (b.tokenResponse flow today r).cookies = [] := by
  rw [tokenResponse, deliver]
  split
  · exact Response.cookies_json _ _
  · exact Response.cookies_page _ _

theorem cookies_itemResponse (item : String) : (b.itemResponse item).cookies = [] := by
  rw [itemResponse]
  split
  case h_5 => rfl
  all_goals exact Response.cookies_json _ _

theorem cookies_accessResponse (spelled : String) : (b.accessResponse spelled).cookies = [] := by
  rw [accessResponse]
  split
  · exact cookies_itemResponse _
  · exact Response.cookies_withBody _ _ _

theorem cookies_routeResponse {route : Route} (h : route ≠ .cookie) :
    (b.routeResponse initial today r route).cookies = [] := by
  cases route with
  | status => exact Response.cookies_json _ _
  | cookie => exact absurd rfl h
  | token => exact cookies_tokenResponse _
  | externalToken => exact cookies_tokenResponse _
  | access item => exact cookies_accessResponse item

theorem cookies_respond_of_not (h : ¬AsksForCookie r) : (b.respond initial today r).cookies = [] := by
  rw [respond]
  split
  · rw [nothing]
    split
    · rfl
    · rfl
  · next route hroute =>
    have hcookies : r.method = "GET" ∨ r.method = "HEAD" →
        (b.routeResponse initial today r route).cookies = [] := by
      intro hmethod
      refine cookies_routeResponse ?_
      rintro rfl
      exact h ⟨hmethod, Route.ofPath?_eq_cookie_iff.mp hroute⟩
    split
    · next hget => exact hcookies (.inl hget)
    · split
      · next hhead =>
        rw [Response.cookies_headOnly]
        exact hcookies (.inr hhead)
      · rfl

/-! ## Answers to requests for a cookie -/

theorem respond_of_asksForCookie (h : AsksForCookie r) : b.respond initial today r =
    if r.method = "GET" then b.cookieResponse initial r
    else (b.cookieResponse initial r).headOnly := by
  have hroute : Route.ofPath? r.target.path = some .cookie := Route.ofPath?_eq_cookie_iff.mpr h.path
  rw [respond, hroute]
  rcases h.method with hget | hhead
  · simp only [hget, if_true]
    rfl
  · simp only [hhead]
    rfl

theorem cookieResponse_of_mints {u : Url} {degraded : Bool} (h : Mints b r u degraded) :
    b.cookieResponse initial r = b.mint initial (r.client b.trustForwardedFor) u degraded := by
  simp only [cookieResponse, h.origin, h.flag]

theorem exists_mints_of_cookies (h : AsksForCookie r)
    (hcookies : (b.cookieResponse initial r).cookies ≠ []) : ∃ u degraded, Mints b r u degraded := by
  rw [cookieResponse] at hcookies
  split at hcookies
  · exact absurd (Response.cookies_page _ _) hcookies
  · next u horigin =>
    split at hcookies
    · next degraded hflag => exact ⟨u, degraded, h, horigin, hflag⟩
    · exact absurd (Response.cookies_page _ _) hcookies
    · exact absurd (Response.cookies_json _ _) hcookies
    · exact absurd rfl hcookies

/-- The facts for the client of a request. -/
theorem facts_client (b : Broker) (r : Request) (degraded : Bool) :
    b.facts (r.client b.trustForwardedFor) degraded =
      ⟨(r.client b.trustForwardedFor).text,
        b.classifier.isPrivileged (r.client b.trustForwardedFor), degraded⟩ := by
  rw [facts, AccessCookie.of, Address.canonicalText, Request.canonical_client]

/-- The answer to a request that gets a cookie: the cookie opens for the client to the facts about
it, and the page shows the same facts. -/
theorem respond_of_mints (initial : Cipher.Aes.Block) (today : Date) {u : Url} {degraded : Bool}
    (h : Mints b r u degraded) :
    (b.respond initial today r).status = 200 ∧
    (∃ line value, (b.respond initial today r).cookies = [line] ∧
      Cookie.valueOf? line = some value ∧
      b.cipher.opened value (r.client b.trustForwardedFor) =
        .ok (b.facts (r.client b.trustForwardedFor) degraded)) ∧
    (r.method = "GET" → Page.facts? (b.respond initial today r).body =
      some (b.facts (r.client b.trustForwardedFor) degraded)) := by
  have hrespond : b.respond initial today r = _ := respond_of_asksForCookie h.toAsksForCookie
  rw [cookieResponse_of_mints h] at hrespond
  have hstatus : (b.respond initial today r).status = 200 := by
    rw [hrespond]
    split
    · rfl
    · rfl
  have hcookies : (b.respond initial today r).cookies = [b.cookie.encoded
      (b.cipher.sealed initial (b.facts (r.client b.trustForwardedFor) degraded))] := by
    rw [← cookies_mint b initial (r.client b.trustForwardedFor) u degraded, hrespond]
    split
    · rfl
    · exact Response.cookies_headOnly _
  have hopened : b.cipher.opened
      (b.cipher.sealed initial (b.facts (r.client b.trustForwardedFor) degraded))
      (r.client b.trustForwardedFor) = .ok (b.facts (r.client b.trustForwardedFor) degraded) := by
    rw [facts, CookieCipher.opened_sealed rfl, if_pos rfl]
  refine ⟨hstatus, ⟨_, _, hcookies, Cookie.valueOf?_encoded _ _, hopened⟩, ?_⟩
  intro hget
  rw [hrespond, if_pos hget]
  exact Page.facts?_cookie _ _ _ _

/-! ## Cookies that are set and cookies that are not -/

/-- **Only a made cookie is set, and it opens to what the page shows.** For every broker, whatever
its sources answer, and every request: a cookie is set just where one is asked for, with an origin
that has a flag. Then exactly one is set. Its value opens for the client of the request to its
address, whether it is privileged, and the flag; and the page shows the same. A request for a cookie
without a good origin, or whose flag is out of reach, is answered with one of two fixed pages. -/
theorem respond_cookies (b : Broker) (initial : Cipher.Aes.Block) (today : Date) (r : Request) :
    ((b.respond initial today r).cookies ≠ [] ↔ ∃ u degraded, Mints b r u degraded) ∧
    (∀ u degraded, Mints b r u degraded →
      (b.respond initial today r).status = 200 ∧
      (∃ line value, (b.respond initial today r).cookies = [line] ∧
        Cookie.valueOf? line = some value ∧
        b.cipher.opened value (r.client b.trustForwardedFor) =
          .ok ⟨(r.client b.trustForwardedFor).text,
            b.classifier.isPrivileged (r.client b.trustForwardedFor), degraded⟩) ∧
      (r.method = "GET" → Page.facts? (b.respond initial today r).body =
        some ⟨(r.client b.trustForwardedFor).text,
          b.classifier.isPrivileged (r.client b.trustForwardedFor), degraded⟩)) ∧
    (r.method = "GET" → r.target.path = "/cookie" →
      (origin? r = none → b.respond initial today r = badOrigin) ∧
      ∀ u reason, origin? r = some u → b.sources.degraded u.text = .unavailable reason →
        b.respond initial today r = noCookie) ∧
    badOrigin.status = 400 ∧ noCookie.status = 500 := by
  refine ⟨⟨?_, ?_⟩, ?_, ?_, rfl, rfl⟩
  · intro hcookies
    by_cases h : AsksForCookie r
    · rw [respond_of_asksForCookie h] at hcookies
      split at hcookies
      · exact exists_mints_of_cookies h hcookies
      · rw [Response.cookies_headOnly] at hcookies
        exact exists_mints_of_cookies h hcookies
    · exact absurd (cookies_respond_of_not h) hcookies
  · intro ⟨u, degraded, h⟩
    obtain ⟨-, ⟨line, value, hcookies, -, -⟩, -⟩ := respond_of_mints initial today h
    rw [hcookies]
    exact List.cons_ne_nil _ _
  · intro u degraded h
    rw [← facts_client]
    exact respond_of_mints initial today h
  · intro hget hpath
    rw [respond_of_asksForCookie ⟨.inl hget, hpath⟩, if_pos hget]
    constructor
    · intro hnone
      simp only [cookieResponse, hnone]
    · intro u reason horigin hflag
      simp only [cookieResponse, horigin, hflag]

/-- 127.0.0.1 asks for a cookie with an origin and gets one; without an origin it gets none. -/
theorem respond_cookies_local : ∃ b u, seeded sampleConfig .empty = .ok b ∧
    Mints b sampleMint u false ∧
    (b.respond .zero sampleDay sampleMint).status = 200 ∧
    (∃ line value, (b.respond .zero sampleDay sampleMint).cookies = [line] ∧
      Cookie.valueOf? line = some value ∧
      b.cipher.opened value (.v4 ⟨0x7F000001⟩) = .ok ⟨"127.0.0.1", true, false⟩) ∧
    Page.facts? (b.respond .zero sampleDay sampleMint).body = some ⟨"127.0.0.1", true, false⟩ ∧
    b.respond .zero sampleDay { sampleMint with target := ⟨"/cookie", none⟩ } = badOrigin := by
  obtain ⟨b, hb, hprivileged, hsources⟩ := exists_ofConfig_sampleConfig
  obtain ⟨-, -, htrust⟩ := settings_of_ofConfig hb
  have hsome : (origin? sampleMint).isSome = true := by decide +kernel
  obtain ⟨u, horigin⟩ := Option.isSome_iff_exists.mp hsome
  have hflag : b.sources.degraded u.text = .value false := by
    rw [hsources]
    rfl
  have hmints : Mints b sampleMint u false := ⟨⟨.inl rfl, rfl⟩, horigin, hflag⟩
  obtain ⟨-, hmade, -, -⟩ := respond_cookies b .zero sampleDay sampleMint
  obtain ⟨-, -, hrefused, -⟩ :=
    respond_cookies b .zero sampleDay { sampleMint with target := ⟨"/cookie", none⟩ }
  have hclient : sampleMint.client b.trustForwardedFor = .v4 ⟨0x7F000001⟩ := by
    rw [htrust]
    rfl
  have htext : Address.text (.v4 ⟨0x7F000001⟩) = "127.0.0.1" := by decide
  obtain ⟨hstatus, hcookie, hpage⟩ := hmade u false hmints
  rw [hclient, htext, hprivileged] at hcookie hpage
  exact ⟨b, u, hb, hmints, hstatus, hcookie, hpage rfl, (hrefused rfl rfl).1 (by decide +kernel)⟩

end Broker

end AccessBroker
