/-
The settings that a run really uses.

Checking and serving accept the same settings: those that load, make a broker and
name a place to listen (`Ready`). What is loaded is valid, and after that only the
host and the port are replaced, so that the settings in use are valid but for a
port that was asked to be zero (`run_iff_ready`). Such a port is accepted
(`exists_ready_zeroPort`).
-/
import AccessBroker.CommandLine.Run
import AccessBroker.Proofs.Broker.Basic
import AccessBroker.Proofs.Config.Validation

namespace AccessBroker

/-! ## Loading -/

theorem Config.isValid_of_load {file : Option File} {env : Environment} {c : Config}
    (h : load file env = .ok c) : c.IsValid := by
  simp only [load, Broker.bind_eq_ok_iff] at h
  obtain ⟨-, -, found, -, h⟩ := h
  rw [checked] at h
  split at h
  · next hfault =>
    rw [← Except.ok.inj h]
    exact hfault
  · cases h

namespace CommandLine

variable {g : Given} {file : String → Option String} {env : Environment} {c : Config}

/-- Options replace the host and the port of a configuration that was loaded. -/
theorem load_eq_ok_iff : load g file env = .ok c ↔
    ∃ found, Config.load (g.config.map fun name => ⟨name, file name⟩) env = .ok found ∧
      c = found.listeningOn (g.host.getD found.server.host) (g.port.getD found.server.port) := by
  simp only [load, Broker.bind_eq_ok_iff, Except.ok.injEq]
  exact exists_congr fun found => and_congr_right fun _ => eq_comm

/-- What is in use is valid, but for a port that was asked to be zero. -/
theorem fault?_of_load (h : load g file env = .ok c) :
    c.fault? = if g.port = some 0 then some .zeroPort else none := by
  obtain ⟨found, hfound, rfl⟩ := load_eq_ok_iff.mp h
  have hvalid := Config.isValid_of_load hfound
  have hport : g.port.getD found.server.port = 0 ↔ g.port = some 0 := by
    cases g.port with
    | none => simpa using (Config.isValid_iff.mp hvalid).1
    | some port => simp
  rw [hvalid.fault?_listeningOn]
  simp only [hport]

/-! ## Commands -/

/-- Settings that load, make a broker and name a place to listen. -/
structure Ready (g : Given) (file : String → Option String) (env : Environment) (c : Config)
    (b : Broker) (e : Endpoint) : Prop where
  loaded : load g file env = .ok c
  broker : Broker.seeded c env = .ok b
  endpoint : c.server.endpoint = .ok e

theorem code_checkConfig_eq_zero_iff :
    (checkConfig g file env).code = 0 ↔ ∃ c b e, Ready g file env c b e := by
  rw [checkConfig]
  constructor
  · intro h
    split at h
    · cases h
    next c hload =>
    split at h
    · cases h
    next e hendpoint =>
    split at h
    · cases h
    next b hbroker =>
    exact ⟨c, b, e, hload, hbroker, hendpoint⟩
  · rintro ⟨c, b, e, hload, hbroker, hendpoint⟩
    simp only [hload, hendpoint, hbroker]
    rfl

theorem serve_eq_serves_iff {b : Broker} {e : Endpoint} :
    serve g file env = .serves b e ↔ ∃ c, Ready g file env c b e := by
  rw [serve]
  constructor
  · intro h
    split at h
    · cases h
    next c hload =>
    split at h
    · cases h
    next b' hbroker =>
    split at h
    · cases h
    next e' hendpoint =>
    cases h
    exact ⟨c, hload, hbroker, hendpoint⟩
  · rintro ⟨c, hload, hbroker, hendpoint⟩
    simp only [hload, hbroker, hendpoint]

/-! ## Runs -/

theorem run_of_read {args : List String} {asked : Asked} (h : read env args = .ok asked) :
    run args file env = perform file env asked := by
  rw [run, h]

/-- **The settings in use.** A check ends well, and the service is ready to listen, exactly if the
settings in use load, make a broker and name a place to listen. They are valid then, as those of the
file and the variables are that they come from, unless the port that was asked for is zero. -/
theorem run_iff_ready (args : List String) (file : String → Option String) (env : Environment)
    (g : Given) :
    (read env args = .ok (.run .checkConfig g) →
      ((run args file env).code = 0 ↔ ∃ c b e, Ready g file env c b e)) ∧
    (∀ b e, read env args = .ok (.run .serve g) →
      (run args file env = .serves b e ↔ ∃ c, Ready g file env c b e)) ∧
    ∀ c b e, Ready g file env c b e →
      c.fault? = if g.port = some 0 then some .zeroPort else none := by
  refine ⟨?_, ?_, ?_⟩
  · intro hread
    rw [run_of_read hread, perform]
    exact code_checkConfig_eq_zero_iff
  · intro b e hread
    rw [run_of_read hread, perform]
    exact serve_eq_serves_iff
  · intro c b e hready
    exact fault?_of_load hready.loaded

/-- A file with the settings that have no value of their own. -/
def sampleFile (name : String) : Option String :=
  if name = "hauth.yaml" then
    some (Config.sampleText "version: \"1.0\"\n" "  password: password\n")
  else none

/-- The configuration of the file. -/
def sampleConfig : Config := { Config.sample "password" with version := "1.0" }

/-- Arguments that name the file, and a port or none. -/
def sampleGiven (port : Option UInt16) : Given := { Given.nothing with config := "hauth.yaml", port }

theorem exists_ready_sample {port : Option UInt16}
    (hload : (load (sampleGiven port) sampleFile .empty).toOption =
      some (sampleConfig.listeningOn "0.0.0.0" (port.getD 8888)))
    (hendpoint : (sampleConfig.listeningOn "0.0.0.0"
      (port.getD 8888)).server.endpoint.toOption.isSome = true) : ∃ b e,
    Ready (sampleGiven port) sampleFile .empty
      (sampleConfig.listeningOn "0.0.0.0" (port.getD 8888)) b e := by
  obtain ⟨e, he⟩ := Option.isSome_iff_exists.mp hendpoint
  obtain ⟨b, hb, -, -⟩ := Broker.exists_ofConfig_sample
    (c := sampleConfig.listeningOn "0.0.0.0" (port.getD 8888)) (.ofConfig _) rfl rfl rfl
  exact ⟨b, e, Broker.eq_ok_of_toOption hload, hb, Broker.eq_ok_of_toOption he⟩

/-- Without a port the settings in use are valid, for a check and for the service. -/
theorem run_iff_ready_sample :
    read .empty ["--config", "hauth.yaml", "check-config"] =
        .ok (.run .checkConfig (sampleGiven none)) ∧
      read .empty ["--config", "hauth.yaml"] = .ok (.run .serve (sampleGiven none)) ∧
      (run ["--config", "hauth.yaml", "check-config"] sampleFile .empty).code = 0 ∧
      ∃ c b e, run ["--config", "hauth.yaml"] sampleFile .empty = .serves b e ∧
        Ready (sampleGiven none) sampleFile .empty c b e ∧ c.fault? = none := by
  have hload : (load (sampleGiven none) sampleFile .empty).toOption =
      some (sampleConfig.listeningOn "0.0.0.0" 8888) := by decide +kernel
  obtain ⟨b, e, hready⟩ := exists_ready_sample hload (by decide +kernel)
  have hcheck : read .empty ["--config", "hauth.yaml", "check-config"] =
      .ok (.run .checkConfig (sampleGiven none)) := by decide +kernel
  have hserve : read .empty ["--config", "hauth.yaml"] = .ok (.run .serve (sampleGiven none)) := by
    decide +kernel
  obtain ⟨hchecks, -, hvalid⟩ :=
    run_iff_ready ["--config", "hauth.yaml", "check-config"] sampleFile .empty (sampleGiven none)
  obtain ⟨-, hserves, -⟩ :=
    run_iff_ready ["--config", "hauth.yaml"] sampleFile .empty (sampleGiven none)
  exact ⟨hcheck, hserve, (hchecks hcheck).mpr ⟨_, b, e, hready⟩, _, b, e,
    (hserves b e hserve).mpr ⟨_, hready⟩, hready, hvalid _ b e hready⟩

/-- A port of zero is asked for, and accepted by a check and by the service, though the settings in
use are not valid. -/
theorem exists_ready_zeroPort : ∃ c b e,
    (read .empty ["--config", "hauth.yaml", "--port", "0", "check-config"] =
        .ok (.run .checkConfig (sampleGiven (some 0))) ∧
      (run ["--config", "hauth.yaml", "--port", "0", "check-config"] sampleFile .empty).code = 0) ∧
    (read .empty ["--config", "hauth.yaml", "--port", "0"] =
        .ok (.run .serve (sampleGiven (some 0))) ∧
      run ["--config", "hauth.yaml", "--port", "0"] sampleFile .empty = .serves b e) ∧
    Ready (sampleGiven (some 0)) sampleFile .empty c b e ∧ ¬ c.IsValid := by
  have hload : (load (sampleGiven (some 0)) sampleFile .empty).toOption =
      some (sampleConfig.listeningOn "0.0.0.0" 0) := by decide +kernel
  obtain ⟨b, e, hready⟩ := exists_ready_sample hload (by decide +kernel)
  have hcheck : read .empty ["--config", "hauth.yaml", "--port", "0", "check-config"] =
      .ok (.run .checkConfig (sampleGiven (some 0))) := by decide +kernel
  have hserve : read .empty ["--config", "hauth.yaml", "--port", "0"] =
      .ok (.run .serve (sampleGiven (some 0))) := by decide +kernel
  refine ⟨_, b, e, ⟨hcheck, ?_⟩, ⟨hserve, ?_⟩, hready, ?_⟩
  · rw [run_of_read hcheck, perform]
    exact code_checkConfig_eq_zero_iff.mpr ⟨_, b, e, hready⟩
  · rw [run_of_read hserve, perform]
    exact serve_eq_serves_iff.mpr ⟨_, hready⟩
  · decide

end CommandLine

end AccessBroker
