/-
Three commands that agree.

Asked with the same options, the three commands are given the same values or are misused alike
(`run_command`, `run_classify`), so a check ends well exactly if the service is ready to listen. A
ready service classifies its clients by the blocks that the command for one address reads: the two
tell the same of every address (`commands_agree`).
-/
import AccessBroker.Proofs.Broker.Cookies
import AccessBroker.Proofs.Broker.Origins
import AccessBroker.Proofs.CommandLine.Effective
import AccessBroker.Proofs.CommandLine.Options

namespace AccessBroker

theorem Network.Classifier.isPrivileged_canonical (c : Classifier) (a : Address) :
    c.isPrivileged a.canonical = c.isPrivileged a := by
  rw [isPrivileged, isPrivileged, Address.canonical_canonical]

/-- A client that no header tells of is its peer, with or without trust. -/
theorem Http.Request.client_of_not_forwarded {r : Http.Request} (h : r.values "x-forwarded-for" = [])
    (trust : Bool) : r.client trust = r.peer.canonical := by
  have hnone : r.forwarded? = none := by
    rw [forwarded?, h]
    rfl
  rw [client, hnone]
  cases trust <;> rfl

namespace CommandLine

open Http Broker

variable {env : Environment} {back : List Flag} {file : String → Option String} {g : Given}
  {c : Config} {b : Broker} {e : Endpoint}

/-! ## Runs with the same options -/

theorem run_command (front : List Flag) (file : String → Option String) (env : Environment)
    {name : String} {command : CommandName}
    (hname : commandNamed? name = some command) (hhelp : command ≠ .help)
    (hclassify : command ≠ .classify) (hbare : IsBare name)
    (hback : ∀ f ∈ back, f.choice.stands true = true) :
    run (argsOf front ++ name :: argsOf back) file env =
      match valuesOf env front back with
      | .ok g => perform file env (.run command g)
      | .error f => .misused f := by
  rw [run, read_command hname hhelp hclassify hbare hback]
  cases valuesOf env front back <;> rfl

theorem run_classify (front : List Flag) (file : String → Option String) (env : Environment)
    (a : Address) (hback : ∀ f ∈ back, f.choice.stands true = true) :
    run (argsOf front ++ "classify" :: (argsOf back ++ [a.text])) file env =
      match valuesOf env front back with
      | .ok g => classify g a file env
      | .error f => .misused f := by
  rw [run, read_classify a hback]
  cases valuesOf env front back <;> rfl

/-! ## What a ready service and a command tell -/

/-- Settings that are ready for the service are good enough to classify an address. -/
theorem classify_of_ready (h : Ready g file env c b e) (a : Address) :
    classify g a file env = .succeeded (classified b.classifier a) := by
  simp only [classify, h.loaded, classifier_of_ofConfig h.broker]

theorem classified_eq_iff (classifier : Network.Classifier) (a : Address) :
    classified classifier a = a.text ++ ": campus network\n" ↔
      classifier.isPrivileged a = true := by
  rw [classified]
  cases classifier.isPrivileged a with
  | true => simp
  | false =>
    refine iff_of_false ?_ Bool.false_ne_true
    intro h
    have hlist := congrArg String.toList h
    rw [String.toList_append, String.toList_append] at hlist
    exact absurd (List.append_cancel_left hlist) (by decide)

/-- A ready service makes a cookie for every client that names an origin. -/
theorem exists_mints_of_seeded (hb : seeded c env = .ok b) {r : Request} (h : AsksForCookie r)
    {u : Url} (horigin : origin? r = some u) : ∃ degraded, Mints b r u degraded := by
  refine ⟨(DegradedAccess.ofList c.origins).allowed u.text, h, horigin, ?_⟩
  rw [sources_of_seeded hb]
  rfl

/-- The cookie that a ready service makes for a peer tells what the command tells of it. -/
theorem cookie_of_ready (h : Ready g file env c b e) (initial : Cipher.Aes.Block) (today : Date)
    {r : Request} (hget : r.method = "GET") (hpath : r.target.path = "/cookie")
    (hforwarded : r.values "x-forwarded-for" = []) {u : Url} (horigin : origin? r = some u) :
    ∃ line value facts, (b.respond initial today r).cookies = [line] ∧
      Cookie.valueOf? line = some value ∧ b.cipher.opened value r.peer = .ok facts ∧
      facts.campus = b.classifier.isPrivileged r.peer := by
  obtain ⟨degraded, hmints⟩ := exists_mints_of_seeded h.broker ⟨.inl hget, hpath⟩ horigin
  obtain ⟨-, ⟨line, value, hcookies, hvalue, hopened⟩, -⟩ :=
    respond_of_mints initial today hmints
  have hclient : r.client b.trustForwardedFor = r.peer.canonical :=
    Request.client_of_not_forwarded hforwarded _
  rw [hclient, CookieCipher.opened_canonical] at hopened
  exact ⟨line, value, _, hcookies, hvalue, hopened, b.classifier.isPrivileged_canonical r.peer⟩

/-! ## The commands -/

/-- **The three commands agree.** Asked with the same options, files and variables, a check ends well
exactly if the service gets ready to listen. Then the command for an address ends well for every
address, and says that it is on the campus network exactly if that is sealed into the cookie which
this service makes for a peer with this address that names an origin and tells of no other client. -/
theorem commands_agree (front : List Flag) {back : List Flag}
    (hback : ∀ f ∈ back, f.choice.stands true = true) (file : String → Option String)
    (env : Environment) :
    ((run (argsOf front ++ "check-config" :: argsOf back) file env).code = 0 ↔
      ∃ b e, run (argsOf front ++ "serve" :: argsOf back) file env = .serves b e) ∧
    ∀ b e, run (argsOf front ++ "serve" :: argsOf back) file env = .serves b e → ∀ a : Address,
      (run (argsOf front ++ "classify" :: (argsOf back ++ [a.text])) file env).code = 0 ∧
      ∀ (initial : Cipher.Aes.Block) (today : Date) (r : Request), r.method = "GET" →
        r.target.path = "/cookie" → r.peer = a → r.values "x-forwarded-for" = [] →
        (origin? r).isSome = true →
        ∃ line value facts, (b.respond initial today r).cookies = [line] ∧
          Cookie.valueOf? line = some value ∧ b.cipher.opened value a = .ok facts ∧
          ((run (argsOf front ++ "classify" :: (argsOf back ++ [a.text])) file env).output =
            a.text ++ ": campus network\n" ↔ facts.campus = true) := by
  have hcheck : run (argsOf front ++ "check-config" :: argsOf back) file env = _ :=
    run_command front file env rfl (by decide) (by decide) (isBare_of_head? (by decide)) hback
  have hserve : run (argsOf front ++ "serve" :: argsOf back) file env = _ :=
    run_command front file env rfl (by decide) (by decide) (isBare_of_head? (by decide)) hback
  have hclassify : ∀ a : Address, _ := fun a => run_classify front file env a hback
  cases hvalues : valuesOf env front back with
  | error f =>
    simp only [hvalues] at hcheck hserve
    rw [hcheck, hserve]
    refine ⟨iff_of_false (Nat.succ_ne_zero 1) ?_, ?_⟩
    · rintro ⟨b, e, h⟩
      cases h
    · intro b e h
      cases h
  | ok g =>
    simp only [hvalues, perform] at hcheck hserve hclassify
    rw [hcheck, hserve]
    constructor
    · rw [code_checkConfig_eq_zero_iff]
      simp only [serve_eq_serves_iff]
      constructor
      · rintro ⟨c, b, e, h⟩
        exact ⟨b, e, c, h⟩
      · rintro ⟨b, e, c, h⟩
        exact ⟨c, b, e, h⟩
    · intro b e hserves a
      obtain ⟨c, hready⟩ := serve_eq_serves_iff.mp hserves
      rw [hclassify, classify_of_ready hready]
      refine ⟨rfl, ?_⟩
      intro initial today r hget hpath hpeer hforwarded horigin
      obtain ⟨u, horigin⟩ := Option.isSome_iff_exists.mp horigin
      obtain ⟨line, value, facts, hcookies, hvalue, hopened, hcampus⟩ :=
        cookie_of_ready hready initial today hget hpath hforwarded horigin
      rw [hpeer] at hopened hcampus
      refine ⟨line, value, facts, hcookies, hvalue, hopened, ?_⟩
      rw [hcampus]
      exact classified_eq_iff b.classifier a

/-- The option for the file of the sample. -/
def sampleFlag : Flag where
  choice := .config
  value := "hauth.yaml"
  apart := true
  args := ["--config", "hauth.yaml"]
  spells := .long (isBare_of_head? (by decide))

/-- The service of the sample is ready, and the check and the command for an address agree with it. -/
theorem commands_agree_sample : (∀ f ∈ [sampleFlag], f.choice.stands true = true) ∧
    (run ["check-config", "--config", "hauth.yaml"] sampleFile .empty).code = 0 ∧
    ∃ b e, run ["serve", "--config", "hauth.yaml"] sampleFile .empty = .serves b e ∧
      (run ["classify", "--config", "hauth.yaml", "127.0.0.1"] sampleFile .empty).code = 0 ∧
      ∃ line value facts, (b.respond .zero Broker.sampleDay Broker.sampleMint).cookies = [line] ∧
        Cookie.valueOf? line = some value ∧
        b.cipher.opened value (.v4 ⟨0x7F000001⟩) = .ok facts ∧
        ((run ["classify", "--config", "hauth.yaml", "127.0.0.1"] sampleFile .empty).output =
          "127.0.0.1: campus network\n" ↔ facts.campus = true) := by
  have hback : ∀ f ∈ [sampleFlag], f.choice.stands true = true := by
    intro f hf
    rw [List.mem_singleton.mp hf]
    rfl
  have hload : (load (sampleGiven none) sampleFile .empty).toOption =
      some (sampleConfig.listeningOn "0.0.0.0" 8888) := by decide +kernel
  obtain ⟨b, e, hready⟩ := exists_ready_sample hload (by decide +kernel)
  have hread : read .empty ["serve", "--config", "hauth.yaml"] =
      .ok (.run .serve (sampleGiven none)) := by decide +kernel
  have hserves : run ["serve", "--config", "hauth.yaml"] sampleFile .empty = .serves b e := by
    rw [run_of_read hread, perform]
    exact serve_eq_serves_iff.mpr ⟨_, hready⟩
  obtain ⟨hcheck, hclassify⟩ := commands_agree [] hback sampleFile .empty
  obtain ⟨hcode, hcookie⟩ := hclassify b e hserves (.v4 ⟨0x7F000001⟩)
  exact ⟨hback, hcheck.mpr ⟨b, e, hserves⟩, b, e, hserves, hcode,
    hcookie .zero Broker.sampleDay Broker.sampleMint rfl rfl rfl rfl (by decide +kernel)⟩

end CommandLine

end AccessBroker
