/-
What counts as presented.

A credential is missing when its cookie is not in the jar, and the jar has the
cookies that headers give in plain text with values that can be read. Exactly
these are presented to the ways to a token (`respond_presented`). A cookie that a
header names but that is lost on the way into the jar is told to be missing,
though the client did send it (`exists_respond_missing`).
-/
import AccessBroker.Proofs.Broker.Routes
import AccessBroker.Proofs.Cookie.Presented
import AccessBroker.Proofs.Token.Flow

namespace AccessBroker

namespace Http.Request

/-- A header of the request names a cookie, whatever stands behind the name. -/
def Names (r : Request) (name : String) : Prop :=
  ∃ header ∈ r.values "cookie", ∃ value, Cookie.Gives name header value

/-- A header of the request gives a cookie a value that can be read, and is plain text. -/
def Presents (r : Request) (name : String) : Prop :=
  ∃ header ∈ r.values "cookie", ∃ value text, Cookie.Keeps name header value text

theorem jar_ne_none_iff {r : Request} {name : String} :
    r.jar.get? name ≠ none ↔ r.Presents name :=
  Cookie.get?_ofHeaders_ne_none_iff

end Http.Request

/-! ## Replies -/

/-- A reply that blames a missing credential where none is presented, and there only; one that is
presented gets a token or is invalid. -/
structure TokenReply.Judges (reply : TokenReply) (presented : Prop) : Prop where
  missing_iff : reply.result.fault? = some .missingCredentials ↔ ¬ presented
  of_presented : presented →
    reply.result.fault? = none ∨ reply.result.fault? = some .invalidCredentials

theorem TokenFlow.fault?_result (f : TokenFlow) (expiresIn : Option UInt64) (jar : Cookie.Jar)
    (client : Client) (today : Date) (messageId : Option String) :
    (f.result expiresIn jar client today messageId).fault? =
      match f.issue jar client today with
      | .ok _ => none
      | .error e => some e := by
  rw [result]
  cases f.issue jar client today with
  | ok token => rfl
  | error e => rfl

/-- How a result is delivered changes nothing of it. -/
theorem TokenFlow.fault?_exchange (f : TokenFlow) (expiresIn : Option UInt64) (jar : Cookie.Jar)
    (client : Client) (today : Date) :
    (f.exchange expiresIn jar client today).result.fault? =
      match f.issue jar client today with
      | .ok _ => none
      | .error e => some e := by
  rw [exchange]
  split
  · exact f.fault?_result expiresIn jar client today _
  · exact f.fault?_result expiresIn jar client today none

theorem Sorts.judges {f : TokenFlow} {jar : Cookie.Jar} {client : Client} {today : Date}
    {presented : Prop} {good : AccessToken → Prop}
    (h : Sorts (f.issue jar client today) presented good) (expiresIn : Option UInt64) :
    (f.exchange expiresIn jar client today).Judges presented := by
  have hfault := f.fault?_exchange expiresIn jar client today
  constructor
  · rw [hfault, ← h.missing_iff]
    cases f.issue jar client today with
    | ok token => simp
    | error e => rw [Option.some.injEq, Except.error.injEq]
  · intro hpresented
    rw [hfault]
    cases hissue : f.issue jar client today with
    | ok token => exact .inl rfl
    | error e =>
      rw [hissue] at h
      cases e with
      | missingCredentials => exact absurd hpresented (h.missing_iff.mp rfl)
      | invalidCredentials => exact .inr rfl
      | unavailable => exact absurd rfl h.ne_unavailable

/-! ## Requests for a token -/

namespace Broker

open Http

/-- **What counts as presented.** A request for a token is told that its credential is missing
exactly if no header of plain text gives the cookie, or each of the two cookies, a value that can be
read; otherwise it gets a token or is told that the credential is invalid. -/
theorem respond_presented {c : Config} {env : Environment} {sources : Sources} {b : Broker}
    (hb : ofConfig c env sources = .ok b) (initial : Cipher.Aes.Block) (today : Date) {r : Request}
    (hmethod : r.method = "GET") :
    (r.target.path = "/token" → ∃ reply : TokenReply,
      b.respond initial today r = deliver reply ∧ reply.Judges (r.Presents c.cookie.name)) ∧
    (r.target.path = "/token/external" → ∃ reply : TokenReply,
      b.respond initial today r = deliver reply ∧
        reply.Judges (r.Presents c.external.ciphertextCookie ∧
          r.Presents c.external.initialCookie)) := by
  have hname : b.cookie.name = c.cookie.name := by
    rw [(settings_of_ofConfig hb).2.1]
    rfl
  obtain ⟨hciphertext, hinitial⟩ := externalCookies_of_ofConfig hb
  constructor
  · intro hpath
    refine ⟨_, respond_get_token hmethod hpath, ?_⟩
    rw [← Request.jar_ne_none_iff, ← hname]
    exact (b.sorts_primary r.jar (b.clientOf r) today).judges b.expiresIn
  · intro hpath
    refine ⟨_, respond_get_externalToken hmethod hpath, ?_⟩
    rw [← Request.jar_ne_none_iff, ← Request.jar_ne_none_iff, ← hciphertext, ← hinitial]
    exact (b.sorts_external r.jar (b.clientOf r) today).judges b.expiresIn

/-- A request for a token with one header of cookies. -/
def carrying (header : List UInt8) : Request :=
  ⟨"GET", ⟨"/token", none⟩, [("cookie", header)], .v4 ⟨0x7F000001⟩⟩

/-- The cookie of a request is not missing, though a pair beside it cannot be read. -/
theorem respond_presented_unreadable : ∃ b,
    ofConfig sampleConfig .empty (.ofConfig sampleConfig) = .ok b ∧
      (carrying (Text.Utf8.encode "n=%FF; iiif-access=e30")).method = "GET" ∧
      ∃ reply : TokenReply,
        b.respond .zero sampleDay (carrying (Text.Utf8.encode "n=%FF; iiif-access=e30")) =
          deliver reply ∧
        (reply.result.fault? = none ∨ reply.result.fault? = some .invalidCredentials) := by
  obtain ⟨b, hb, -, -⟩ := exists_ofConfig_sampleConfig
  obtain ⟨reply, hreply, hjudges⟩ := (respond_presented hb .zero sampleDay
    (r := carrying (Text.Utf8.encode "n=%FF; iiif-access=e30")) rfl).1 rfl
  refine ⟨b, hb, rfl, reply, hreply, hjudges.of_presented ?_⟩
  have hjar : (carrying (Text.Utf8.encode "n=%FF; iiif-access=e30")).jar.get? "iiif-access" =
      some "e30" := by decide +kernel
  rw [← Request.jar_ne_none_iff]
  exact ne_of_eq_of_ne hjar (Option.some_ne_none _)

theorem refuses_of_jar {b : Broker} (initial : Cipher.Aes.Block) (today : Date) {r : Request}
    (hmethod : r.method = "GET") (hpath : r.target.path = "/token") (hquery : r.target.query = none)
    (hjar : r.jar.get? b.cookie.name = none) :
    Refuses (b.respond initial today r) 400 .missingCredentials := by
  have hissue : b.primary.issue r.jar (b.clientOf r) today = .error .missingCredentials :=
    (b.sorts_primary r.jar (b.clientOf r) today).missing_iff.mpr fun h => h hjar
  rw [respond_get_token hmethod hpath]
  exact refuses_of_issue hquery hissue

/-- A cookie is sent, with a value that is no text or next to a byte outside plain text, and is told
to be missing. -/
theorem exists_respond_missing : ∃ b,
    ofConfig sampleConfig .empty (.ofConfig sampleConfig) = .ok b ∧
      ∀ header ∈ [Text.Utf8.encode "iiif-access=%FF", Text.Utf8.encode "iiif-access=e30; n=\u00e9"],
        (carrying header).method = "GET" ∧ (carrying header).target.path = "/token" ∧
          (carrying header).Names sampleConfig.cookie.name ∧
          Refuses (b.respond .zero sampleDay (carrying header)) 400 .missingCredentials := by
  obtain ⟨b, hb, -, -⟩ := exists_ofConfig_sampleConfig
  have hname : b.cookie.name = sampleConfig.cookie.name := by
    rw [(settings_of_ofConfig hb).2.1]
    rfl
  have hdecode : Cookie.decode? "iiif-access".toList = some "iiif-access" := by decide +kernel
  refine ⟨b, hb, fun header hheader => ⟨rfl, rfl, ?_, ?_⟩⟩
  · refine ⟨header, List.mem_singleton_self header, ?_⟩
    rcases List.mem_cons.mp hheader with rfl | hheader
    · exact ⟨Text.Utf8.encode "%FF", Text.Utf8.encode "iiif-access=%FF", by decide +kernel,
        "iiif-access".toList, by decide +kernel, hdecode⟩
    · rw [List.mem_singleton.mp hheader]
      exact ⟨Text.Utf8.encode "e30", Text.Utf8.encode "iiif-access=e30", by decide +kernel,
        "iiif-access".toList, by decide +kernel, hdecode⟩
  · have hjar : ∀ header ∈
        [Text.Utf8.encode "iiif-access=%FF", Text.Utf8.encode "iiif-access=e30; n=\u00e9"],
        (carrying header).jar.get? sampleConfig.cookie.name = none := by decide +kernel
    exact refuses_of_jar .zero sampleDay rfl rfl rfl (hname ▸ hjar header hheader)

end Broker

end AccessBroker
