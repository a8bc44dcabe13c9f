/-
The flags of origins in answers.

A flag is set and asked for by the key of an origin (`allowed_set`). A request
for a cookie asks for the text of the address that it gives, not for what it
gives, so the flag set for a text is the answer to that same text just when both
have one key. An address with an origin has the key of its text, one without an
origin only where its text is already what was given (`respond_seeded`).
-/
import AccessBroker.Proofs.Broker.Routes
import AccessBroker.Proofs.Store.Table
import AccessBroker.Proofs.Url.Origin

namespace AccessBroker

namespace DegradedAccess

theorem allowed_set (s : DegradedAccess) (origin : String) (flag : Bool) (asked : String) :
    (s.set origin flag).allowed asked =
      if Origin.key asked = Origin.key origin then flag else s.allowed asked := by
  rw [allowed, set, Store.Table.get?_insert]
  split
  · rfl
  · rfl

theorem allowed_ofList_singleton (origin : String) (flag : Bool) (asked : String) :
    (ofList [(origin, flag)]).allowed asked =
      if Origin.key asked = Origin.key origin then flag else false :=
  allowed_set empty origin flag asked

end DegradedAccess

namespace Broker

open Http

/-! ## Answers -/

theorem sources_of_seeded {c : Config} {env : Environment} {b : Broker}
    (h : seeded c env = .ok b) : b.sources = .ofConfig c := by
  obtain ⟨password, salt, secret, cipher, validator, classifier, -, -, -, -, -, -, rfl⟩ :=
    ofConfig_eq_ok_iff.mp h
  rfl

/-- The answers for the two flags differ. -/
theorem mint_false_ne_mint_true (b : Broker) (initial : Cipher.Aes.Block) (client : Address)
    (origin : Url) : b.mint initial client origin false ≠ b.mint initial client origin true := by
  intro h
  have hbody : ∀ degraded, (b.mint initial client origin degraded).body =
      Page.cookie b.cipher.version origin.text (b.facts client degraded)
        b.cookie.windowCloseDelay := fun _ => rfl
  have hlength := congrArg (fun r : Response => r.body.length) h
  rw [hbody, hbody] at hlength
  simp only [Page.cookie, String.length_append] at hlength
  have hflag : (Page.flag false).length = (Page.flag true).length := by
    simp only [facts, AccessCookie.of] at hlength
    omega
  exact absurd hflag (by decide)

/-- The answer to a request for a cookie that gives an address. -/
theorem respond_cookie {c : Config} {env : Environment} {b : Broker} (hb : seeded c env = .ok b)
    (initial : Cipher.Aes.Block) (today : Date) {r : Request} (hmethod : r.method = "GET")
    (hpath : r.target.path = "/cookie") {origin : String}
    (horigin : firstNamed "origin" r.parameters = some origin) {u : Url}
    (hparse : Url.parse? (Text.trim origin) = some u) :
    b.respond initial today r = b.mint initial (r.client b.trustForwardedFor) u
      ((DegradedAccess.ofList c.origins).allowed u.text) := by
  have hasked : origin? r = some u := by
    rw [origin?, horigin, Option.bind_some, hparse]
  rw [respond_get_cookie hmethod hpath]
  simp only [cookieResponse, hasked, sources_of_seeded hb]
  rfl

/-! ## Samples -/

/-- What the sample has apart from flags and modes is enough for a broker. -/
theorem exists_seeded {c : Config} (h : { sampleConfig with origins := c.origins, modes := c.modes } = c) :
    ∃ b, seeded c .empty = .ok b := by
  obtain ⟨b, hb, -, -⟩ := exists_ofConfig_sampleConfig
  have hsubnets : Network.Classifier.ofTexts sampleConfig.subnets = .ok b.classifier :=
    classifier_of_ofConfig hb
  rw [← h]
  obtain ⟨b', hb', -, -⟩ := exists_ofConfig_sample
    (c := { sampleConfig with origins := c.origins, modes := c.modes }) (.ofConfig _) rfl rfl hsubnets
  exact ⟨b', hb'⟩

/-- The configuration with one flag. -/
def flagConfig (origin : String) (flag : Bool) : Config :=
  { sampleConfig with origins := [(origin, flag)] }

theorem exists_seeded_flagConfig (origin : String) (flag : Bool) :
    ∃ b, seeded (flagConfig origin flag) .empty = .ok b :=
  exists_seeded rfl

/-- A request for a cookie with a query. -/
def requestFor (query : String) : Request :=
  ⟨"GET", ⟨"/cookie", some query⟩, [], .v4 ⟨0x7F000001⟩⟩

/-- An address of the web, its spelling and a request that gives this spelling. -/
def webUrl : Url :=
  ⟨"https", some ⟨"", "", .name "viewer.example.org", none⟩, .segments ["page"], none, none⟩

def webSpelling : String := "HTTPS://Viewer.Example.org:443/page"

def webRequest : Request := requestFor "origin=HTTPS%3A%2F%2FViewer.Example.org%3A443%2Fpage"

/-- An address without an origin, its spelling and a request that gives this spelling. -/
def appUrl : Url := ⟨"app", some ⟨"", "", .name "viewer", none⟩, .segments [], none, none⟩

def appSpelling : String := "APP://viewer"

def appRequest : Request := requestFor "origin=APP%3A%2F%2Fviewer"

/-! ## Flags told and not told -/

/-- **The flag of an origin in the answer to it.** A broker that is given a flag for one text answers
a request that gives this text, if it is an address, with a cookie and a page for a flag: the given
one if the address has an origin whose host is an address or a plain name, whatever the spelling;
for an address without an origin, the given one just where its own text is what was given, up to
blanks and slashes at the ends. -/
theorem respond_seeded {c : Config} {env : Environment} {b : Broker} (hb : seeded c env = .ok b)
    {origin : String} {flag : Bool} (hseed : c.origins = [(origin, flag)])
    (initial : Cipher.Aes.Block) (today : Date) {r : Request} (hmethod : r.method = "GET")
    (hpath : r.target.path = "/cookie")
    (horigin : firstNamed "origin" r.parameters = some origin) {u : Url}
    (hparse : Url.parse? (Text.trim origin) = some u) : ∃ shown,
      b.respond initial today r = b.mint initial (r.client b.trustForwardedFor) u shown ∧
      shown = (if Origin.key u.text = Origin.key origin then flag else false) ∧
      (∀ o, u.origin? = some o → (∀ name, o.host = .name name → Idna.IsPlainName name.toList) →
        shown = flag) ∧
      (u.origin? = none →
        shown = if Origin.ownKey u.text = Origin.ownKey origin then flag else false) := by
  have hkey := Origin.key_of_parse? hparse
  refine ⟨_, respond_cookie hb initial today hmethod hpath horigin hparse, ?_, ?_, ?_⟩
  all_goals rw [hseed, DegradedAccess.allowed_ofList_singleton]
  · intro o ho hplain
    have hhost : ∀ o', u.origin? = some o' → o'.host.ReadsBack := by
      intro o' ho'
      rw [ho, Option.some.injEq] at ho'
      exact ho' ▸ Origin.readsBack_of_parse? hparse ho hplain
    rw [Origin.key_text hparse hhost, hkey, ho, Option.map_some, Option.getD_some,
      Option.getD_some, if_pos rfl]
  · intro hnone
    have htext := Origin.key_text hparse fun o ho => by rw [hnone] at ho; cases ho
    rw [htext, hkey, hnone, Option.map_none, Option.getD_none, Option.getD_none]

/-- A flag set for one spelling is told to a request that gives the same spelling. -/
theorem respond_seeded_web : ∃ b, seeded (flagConfig webSpelling true) .empty = .ok b ∧
    (webRequest.method = "GET" ∧ webRequest.target.path = "/cookie" ∧
      firstNamed "origin" webRequest.parameters = some webSpelling ∧
      Url.parse? (Text.trim webSpelling) = some webUrl) ∧
    b.respond .zero sampleDay webRequest =
      b.mint .zero (webRequest.client b.trustForwardedFor) webUrl true := by
  obtain ⟨b, hb⟩ := exists_seeded_flagConfig webSpelling true
  have horigin : firstNamed "origin" webRequest.parameters = some webSpelling := by decide +kernel
  have hparse : Url.parse? (Text.trim webSpelling) = some webUrl := by decide +kernel
  have ho : webUrl.origin? = some ⟨"https", .name "viewer.example.org", 443⟩ := by decide +kernel
  have hplain : ∀ name, Host.name "viewer.example.org" = .name name →
      Idna.IsPlainName name.toList := by
    rintro _ ⟨⟩
    exact ⟨Text.forall_mem_of_all (by decide +kernel), by decide +kernel⟩
  obtain ⟨shown, hrespond, -, hweb, -⟩ :=
    respond_seeded hb rfl .zero sampleDay rfl rfl horigin hparse
  rw [hweb _ ho hplain] at hrespond
  exact ⟨b, hb, ⟨rfl, rfl, horigin, hparse⟩, hrespond⟩

/-- A flag set for an address without an origin is not told to a request that gives the same
address, where its text has small letters in the place of capitals. -/
theorem exists_respond_seeded_ne : ∃ b, seeded (flagConfig appSpelling true) .empty = .ok b ∧
    (appRequest.method = "GET" ∧ appRequest.target.path = "/cookie" ∧
      firstNamed "origin" appRequest.parameters = some appSpelling ∧
      Url.parse? (Text.trim appSpelling) = some appUrl) ∧
    b.respond .zero sampleDay appRequest =
      b.mint .zero (appRequest.client b.trustForwardedFor) appUrl false ∧
    b.respond .zero sampleDay appRequest ≠
      b.mint .zero (appRequest.client b.trustForwardedFor) appUrl true := by
  obtain ⟨b, hb⟩ := exists_seeded_flagConfig appSpelling true
  have horigin : firstNamed "origin" appRequest.parameters = some appSpelling := by decide +kernel
  have hparse : Url.parse? (Text.trim appSpelling) = some appUrl := by decide +kernel
  have hkey : Origin.key appUrl.text ≠ Origin.key appSpelling := by decide +kernel
  have hflag : (DegradedAccess.ofList (flagConfig appSpelling true).origins).allowed appUrl.text =
      false := by
    rw [flagConfig, DegradedAccess.allowed_ofList_singleton, if_neg hkey]
  have hrespond := respond_cookie hb .zero sampleDay (r := appRequest) rfl rfl horigin hparse
  rw [hflag] at hrespond
  refine ⟨b, hb, ⟨rfl, rfl, horigin, hparse⟩, hrespond, ?_⟩
  rw [hrespond]
  exact mint_false_ne_mint_true b .zero _ appUrl

end Broker

end AccessBroker
