/-
What a run tells of a secret.

Two runs that differ in the value of one secret, in a file or as a variable, ask for the same thing,
and where both end well they print the same (`Supplied.output_eq`). Where both configurations fail
to load they are told in the same words, unless one of the values is no text that shows a character;
the fault then tells what the value is (`told_of_secret`, `exists_told_of_secret`).
-/
import AccessBroker.Proofs.CommandLine.Effective
import AccessBroker.Proofs.Config.Variable

namespace AccessBroker.CommandLine

open Datum

variable {env env' : Environment} {s : Secret} {a b : Datum} {file file' : String → Option String}
  {g : Given} {c c' : Config}

/-! ## Options -/

theorem fill_congr (h : ∀ c : Choice, env.get? c.variableName = env'.get? c.variableName) :
    ∀ (cs : List Choice) (g : Given), g.fill env cs = g.fill env' cs
  | [], _ => by rw [Given.fill, Given.fill]
  | c :: rest, g => by
    rw [Given.fill, Given.fill, h c]
    simp only [fill_congr h rest]

theorem inner_congr (h : ∀ c : Choice, env.get? c.variableName = env'.get? c.variableName)
    (command : CommandName) (args : List String) : inner env command args = inner env' command args := by
  rw [inner, inner]
  simp only [fill_congr h]

theorem readOuter_congr (h : ∀ c : Choice, env.get? c.variableName = env'.get? c.variableName) :
    ∀ (args : List String) (onlyValues : Bool) (g : Given) (pending : Pending),
    readOuter env onlyValues g pending args = readOuter env' onlyValues g pending args
  | [], _, g, pending => by
    rw [readOuter, readOuter]
    simp only [fill_congr h]
  | s :: rest, onlyValues, g, pending => by
    rw [readOuter.eq_def env, readOuter.eq_def env']
    simp only [fill_congr h, inner_congr h, readOuter_congr h rest]

theorem read_congr (h : ∀ c : Choice, env.get? c.variableName = env'.get? c.variableName)
    (args : List String) : read env args = read env' args :=
  readOuter_congr h args false .nothing none

/-! ## Supplying a secret -/

/-- Files with a text under a name. -/
def withText (file : String → Option String) (name text : String) (k : String) : Option String :=
  if k = name then some text else file k

/-- The file of a name, if one is asked for. -/
def fileNamed (file : String → Option String) (config : Option String) : Option Config.File :=
  config.map fun name => ⟨name, file name⟩

/-- Two runs are given one secret with one value and with another, in a file or as a variable. -/
inductive Supplied (s : Secret) (a b : Datum) : (String → Option String) → Environment →
    (String → Option String) → Environment → Prop
  | inFile {text text' : String} (file : String → Option String) (name : String) (env : Environment)
    (h : s.InDocuments a b text text') :
    Supplied s a b (withText file name text) env (withText file name text') env
  | asVariable {n v w : String} (file : String → Option String) (env : Environment)
    (hn : Environment.pathOf? n = some s.path) (ha : Environment.valueOf v = a)
    (hb : Environment.valueOf w = b) : Supplied s a b file (env.insert n v) file (env.insert n w)

/-- No option is given by a variable of a secret. -/
theorem variableName_ne {n : String} (hn : Environment.pathOf? n = some s.path) (c : Choice) :
    c.variableName ≠ n := by
  rintro rfl
  have hlength : (Environment.pathOf? c.variableName).map List.length = some 1 := by
    cases c <;> decide
  rw [hn] at hlength
  cases hlength

theorem Supplied.read_eq (h : Supplied s a b file env file' env') (args : List String) :
    read env args = read env' args := by
  cases h with
  | inFile => rfl
  | asVariable _ env hn _ _ =>
    refine read_congr (fun c => ?_) args
    rw [Store.Table.get?_insert_of_ne _ (variableName_ne hn c),
      Store.Table.get?_insert_of_ne _ (variableName_ne hn c)]

theorem Supplied.parallel_load (h : Supplied s a b file env file' env') (config : Option String) :
    Parallel StartupFault.Same (s.Tells a) (s.Tells b)
      (Apart s.set (readText a = .ok ·) (readText b = .ok ·))
      (Config.load (fileNamed file config) env) (Config.load (fileNamed file' config) env') := by
  cases h with
  | inFile file name env h =>
    cases config with
    | none => exact .refl .refl (fun _ => .inl rfl) _
    | some k =>
      by_cases hk : k = name
      · simp only [fileNamed, Option.map_some, withText, if_pos hk]
        exact Secret.parallel_load (.inFile k env h)
      · simp only [fileNamed, Option.map_some, withText, if_neg hk]
        exact .refl .refl (fun _ => .inl rfl) _
  | asVariable file env hn ha hb =>
    exact Secret.parallel_load (.asVariable (fileNamed file config) env hn ha hb)

/-! ## What is printed -/

theorem set_listeningOn (s : Secret) (c : Config) (t host : String) (port : UInt16) :
    (s.set c t).listeningOn host port = s.set (c.listeningOn host port) t := by
  cases s <;> rfl

/-- What two runs load is the same but for the secret. -/
theorem Supplied.exists_eq_set (h : Supplied s a b file env file' env')
    (hc : load g file env = .ok c) (hc' : load g file' env' = .ok c') : ∃ t, c = s.set c' t := by
  obtain ⟨found, hfound, rfl⟩ := load_eq_ok_iff.mp hc
  obtain ⟨found', hfound', rfl⟩ := load_eq_ok_iff.mp hc'
  have happart := h.parallel_load g.config
  rw [fileNamed, fileNamed, hfound, hfound'] at happart
  obtain ⟨t, rfl⟩ : ∃ t, found = s.set found' t := by
    rcases happart with rfl | ⟨r, t, u, -, -, rfl, rfl⟩
    · exact ⟨s.of found, (s.isPart.set_get found).symm⟩
    · exact ⟨t, (s.isPart.set_set r u t).symm⟩
  exact ⟨t, by rw [set_listeningOn, (Secret.checks_set s found' t).1]⟩

theorem subnets_set (s : Secret) (c : Config) (t : String) : (s.set c t).subnets = c.subnets := by
  cases s <;> rfl

theorem cookieSettings_set (s : Secret) (c : Config) (t : String) :
    Cookie.Settings.ofConfig (s.set c t).cookie = .ofConfig c.cookie := by
  cases s <;> rfl

/-- A summary tells nothing of a secret. -/
theorem summary_set {t : String} {b b' : Broker} (hb : Broker.seeded (s.set c t) env = .ok b)
    (hb' : Broker.seeded c env' = .ok b') : summary (s.set c t) b = summary c b' := by
  have hclassifier : b.classifier = b'.classifier := by
    have hofTexts := Broker.classifier_of_ofConfig hb
    rw [subnets_set, Broker.classifier_of_ofConfig hb'] at hofTexts
    exact (Except.ok.inj hofTexts).symm
  have hcookie : b.cookie = b'.cookie := by
    rw [(Broker.settings_of_ofConfig hb).2.1, (Broker.settings_of_ofConfig hb').2.1,
      cookieSettings_set]
  unfold summary
  cases s <;> simp only [hclassifier, hcookie, Secret.set]

theorem checkConfig_of_code (h : (checkConfig g file env).code = 0) :
    ∃ c b, load g file env = .ok c ∧ Broker.seeded c env = .ok b ∧
      checkConfig g file env = .succeeded (summary c b) := by
  obtain ⟨c, b, e, hready⟩ := code_checkConfig_eq_zero_iff.mp h
  refine ⟨c, b, hready.loaded, hready.broker, ?_⟩
  simp only [checkConfig, hready.loaded, hready.endpoint, hready.broker]

theorem classify_of_code {x : Address} (h : (classify g x file env).code = 0) :
    ∃ c classifier, load g file env = .ok c ∧
      Network.Classifier.ofTexts c.subnets = .ok classifier ∧
      classify g x file env = .succeeded (classified classifier x) := by
  unfold classify at h ⊢
  split at h
  · cases h
  next c hload =>
  split at h
  · cases h
  next classifier hclassifier =>
  exact ⟨c, classifier, hload, hclassifier, rfl⟩

theorem code_serve_ne_zero : (serve g file env).code ≠ 0 := by
  unfold serve
  split
  · rintro ⟨⟩
  · split
    · rintro ⟨⟩
    · split <;> rintro ⟨⟩

/-- **Two runs that end well print the same**, whichever secret they are given. -/
theorem Supplied.output_eq (h : Supplied s a b file env file' env') (args : List String)
    (hcode : (run args file env).code = 0) (hcode' : (run args file' env').code = 0) :
    (run args file env).output = (run args file' env').output := by
  unfold run at *
  rw [h.read_eq args] at *
  cases hread : read env' args with
  | error f =>
    simp only [hread, Outcome.code] at hcode
    cases hcode
  | ok asked =>
    simp only [hread] at hcode hcode' ⊢
    unfold perform at *
    cases asked with
    | version => rfl
    | help => rfl
    | run command g =>
      cases command with
      | help => rfl
      -- A service never ends well.
      | serve => exact absurd hcode code_serve_ne_zero
      | checkConfig =>
        simp only at hcode hcode' ⊢
        obtain ⟨c, b, hload, hbroker, houtcome⟩ := checkConfig_of_code hcode
        obtain ⟨c', b', hload', hbroker', houtcome'⟩ := checkConfig_of_code hcode'
        obtain ⟨t, rfl⟩ := h.exists_eq_set hload hload'
        rw [houtcome, houtcome', summary_set hbroker hbroker']
      | classify =>
        simp only at hcode hcode' ⊢
        cases haddress : g.address with
        | none => rfl
        | some x =>
          simp only [haddress] at hcode hcode' ⊢
          obtain ⟨c, classifier, hload, hclassifier, houtcome⟩ := classify_of_code hcode
          obtain ⟨c', classifier', hload', hclassifier', houtcome'⟩ := classify_of_code hcode'
          obtain ⟨t, rfl⟩ := h.exists_eq_set hload hload'
          rw [subnets_set, hclassifier'] at hclassifier
          rw [houtcome, houtcome', Except.ok.inj hclassifier]

/-- **What a run tells of a secret.** Where both configurations fail to load, they are told in the
same words, unless one of the values is no text that shows a character, and told as what it is.
Where both runs end well, they print the same. -/
theorem told_of_secret (h : Supplied s a b file env file' env') :
    (∀ config f g, Config.load (fileNamed file config) env = .error f →
      Config.load (fileNamed file' config) env' = .error g →
      f.message = g.message ∨ (¬Secret.IsShown a ∧ s.Tells a f) ∨
        (¬Secret.IsShown b ∧ s.Tells b g)) ∧
    ∀ args, (run args file env).code = 0 → (run args file' env').code = 0 →
      (run args file env).output = (run args file' env').output := by
  refine ⟨fun config f g hf hg => ?_, fun args => h.output_eq args⟩
  have hparallel := h.parallel_load config
  rw [hf, hg] at hparallel
  rcases hparallel with hsame | htells | htells
  · exact .inl hsame
  · exact .inr (.inl ⟨htells.not_isShown, htells⟩)
  · exact .inr (.inr ⟨htells.not_isShown, htells⟩)

/-- Two words as the variable of the password are never told apart. -/
theorem told_of_secret_words :
    Supplied .password (.text "swordfish") (.text "mellon")
      sampleFile (Store.Table.empty.insert Secret.password.variableName "swordfish")
      sampleFile (Store.Table.empty.insert Secret.password.variableName "mellon") ∧
    ∀ config f g,
      Config.load (fileNamed sampleFile config) (Store.Table.empty.insert Secret.password.variableName "swordfish") =
        .error f →
      Config.load (fileNamed sampleFile config) (Store.Table.empty.insert Secret.password.variableName "mellon") =
        .error g →
      f.message = g.message := by
  have h : Supplied .password (.text "swordfish") (.text "mellon")
      sampleFile (Store.Table.empty.insert Secret.password.variableName "swordfish")
      sampleFile (Store.Table.empty.insert Secret.password.variableName "mellon") :=
    .asVariable sampleFile .empty (Secret.pathOf?_variableName .password) Secret.valueOf_swordfish Secret.valueOf_mellon
  refine ⟨h, fun config f g hf hg => ?_⟩
  rcases (told_of_secret h).1 config f g hf hg with hsame | ⟨hhidden, -⟩ | ⟨hhidden, -⟩
  · exact hsame
  · exact absurd ⟨"swordfish", rfl, by decide⟩ hhidden
  · exact absurd ⟨"mellon", rfl, by decide⟩ hhidden

/-- A password of digits is told in full, where of a word nothing is. -/
theorem exists_told_of_secret :
    (∃ f, Config.load none (Store.Table.empty.insert Secret.password.variableName "12345") = .error f ∧
      f.message = "Configuration error: invalid type: found unsigned int `12345`, expected a string for key \"COOKIE.PASSWORD\" in `HAUTH_` environment variable(s)") ∧
    ∃ g, Config.load none (Store.Table.empty.insert Secret.password.variableName "swordfish") = .error g ∧
      g.message = "Configuration error: cookie.salt is required" := by
  rw [Config.load_insert_empty none (Secret.pathOf?_variableName .password) Secret.valueOf_digits,
    Config.load_insert_empty none (Secret.pathOf?_variableName .password) Secret.valueOf_swordfish]
  exact ⟨Secret.exists_error (by decide +kernel) (by decide +kernel),
    Secret.exists_error (by decide +kernel) (by decide +kernel)⟩

end AccessBroker.CommandLine
