/-
Loading a configuration with one secret or another.

A secret may be supplied in the file or as a variable (`Secret.Supplied`). Whichever of two values
is supplied, everything else equal, the configuration loads the same but for the secret, or the
loads fail in the same words, unless a fault is one of the value: it is no text, and the fault tells
what it is, or it is blank (`Secret.Tells`, `Secret.parallel_load`).
-/
import AccessBroker.Proofs.Config.Secrets
import AccessBroker.Proofs.Environment.Settings
import AccessBroker.Proofs.Yaml.Value

namespace AccessBroker

open Datum Config

/-! ## The settings of an environment -/

/-- Loads a configuration from a file, if one is asked for, and the settings of an environment. -/
def Config.loadOver (file : Option File) (environment : Datum) : Except StartupFault Config := do
  let l ← match file with
    | none => .ok ⟨none, environment⟩
    | some f => f.settings.map fun below => Layers.mk (some (f.name, below)) environment
  let c ← ofLayers l
  checked c

theorem Config.load_eq (file : Option File) (env : Environment) :
    load file env = loadOver file env.settings := by
  cases file <;> rfl

/-- A load with one variable alone. -/
theorem Config.load_insert_empty {n v : String} {path : List String} {d : Datum}
    (file : Option File) (hn : Environment.pathOf? n = some path) (hd : Environment.valueOf v = d) :
    load file (Store.Table.empty.insert n v) =
      loadOver file (overlay (nested d path) (.table [])) := by
  rw [load_eq, Environment.settings_insert_empty hn, hd]

/-! ## A load that comes to an end -/

section

variable {file : Option File} {env : Environment} {c : Config}

theorem Config.load_of_layers {l : Layers} (h : layers file env = .ok l) : load file env =
    match Config.read .setting l.seen with
    | .ok c => checked c
    | .error f => .error (.misread (l.misread f)) := by
  have hload : load file env = ofLayers l >>= checked := by
    rw [load, h]
    rfl
  rw [hload, ofLayers]
  cases Config.read .setting l.seen <;> rfl

theorem Config.read_of_load {l : Layers} (h : layers file env = .ok l) (hc : load file env = .ok c) :
    Config.read .setting l.seen = .ok c ∧ c.fault? = none := by
  rw [load_of_layers h] at hc
  split at hc
  · next found hread =>
    rw [checked] at hc
    split at hc
    · next hfault =>
      rw [← Except.ok.inj hc]
      exact ⟨hread, hfault⟩
    · cases hc
  · cases hc

theorem Config.layers_file {name text : String} {ds : List (String × Datum)}
    (h : Yaml.readTable? text = some ds) (env : Environment) :
    layers (some ⟨name, some text⟩) env = .ok ⟨some (name, .table ds), env.settings⟩ := by
  simp only [layers, File.settings, h, Except.map]

/-- The entries of a file; without a file there are none. -/
def Config.entries? : Option File → Option (List (String × Datum))
  | none => some []
  | some f => f.text.bind Yaml.readTable?

/-- The entries below are those of the file, whatever the environment. -/
theorem Config.exists_entries (h : load file env = .ok c) : ∃ es, entries? file = some es ∧
    IsKeyed (.table es) ∧ ∀ env : Environment,
      layers file env = .ok ⟨file.map fun f => (f.name, .table es), env.settings⟩ := by
  cases file with
  | none => exact ⟨[], rfl, .empty, fun _ => rfl⟩
  | some f =>
    obtain ⟨name, text⟩ := f
    cases text with
    | none => cases h
    | some text =>
      cases htable : Yaml.readTable? text with
      | none =>
        simp only [load, layers, File.settings, htable] at h
        cases h
      | some es => exact ⟨es, htable, Yaml.isKeyed_readTable? htable, layers_file htable⟩

end

/-! ## Two loads -/

/-- Two faults are told in the same words. -/
def StartupFault.Same (f g : StartupFault) : Prop := f.message = g.message

theorem StartupFault.Same.refl (f : StartupFault) : f.Same f := rfl

namespace Secret

variable {s : Secret} {a b : Datum} {r c c' : Config} {t u : String} {l l' : Layers}
  {file file' : Option File} {env env' : Environment}

/-! ## Checks -/

/-- A secret is one of the settings that may not be blank. -/
theorem exists_required (s : Secret) (r : Config) : ∃ front back, ∀ t,
    (s.set r t).required = front ++ (s.name, t) :: back := by
  cases s with
  | password => exact ⟨[], r.required.drop 1, fun _ => rfl⟩
  | salt => exact ⟨r.required.take 1, r.required.drop 2, fun _ => rfl⟩
  | shared => exact ⟨r.required.take 3, r.required.drop 4, fun _ => rfl⟩

/-- No other check looks at a secret. -/
theorem checks_set (s : Secret) (r : Config) (t : String) : (s.set r t).server = r.server ∧
    (s.set r t).version = r.version ∧ (s.set r t).external.word = r.external.word := by
  cases s <;> exact ⟨rfl, rfl, rfl⟩

theorem exists_fault?_set (s : Secret) (r : Config) : ∃ front back, ∀ t, (s.set r t).fault? =
    if r.server.port = 0 then some .zeroPort
    else if Text.isBlankText r.version then some .blankVersion
    else (((front ++ (s.name, t) :: back).find? fun x => Text.isBlankText x.2).map fun x =>
      .blank x.1).or (if ' ' ∈ r.external.word.toList then some .spacedWord else none) := by
  obtain ⟨front, back, hrequired⟩ := exists_required s r
  refine ⟨front, back, fun t => ?_⟩
  obtain ⟨hserver, hversion, hword⟩ := checks_set s r t
  rw [fault?, hrequired, hserver, hversion, hword]
  generalize (front ++ (s.name, t) :: back).find? _ = first
  cases first <;> rfl

/-- Of secrets that show a character, none makes a configuration better or worse. -/
theorem fault?_set_of_shown (s : Secret) (r : Config) (ht : Text.isBlankText t = false)
    (hu : Text.isBlankText u = false) : (s.set r t).fault? = (s.set r u).fault? := by
  obtain ⟨front, back, hfault⟩ := exists_fault?_set s r
  rw [hfault, hfault, List.find?_append, List.find?_append, List.find?_cons_of_neg (by simp [ht]),
    List.find?_cons_of_neg (by simp [hu])]

/-- A blank secret is faulted, unless another fault comes first whatever the secret is. -/
theorem fault?_set_of_blank (s : Secret) (r : Config) (ht : Text.isBlankText t = true) :
    (s.set r t).fault? = some (.blank s.name) ∨
      ∃ f, ∀ u, (s.set r u).fault? = some f := by
  obtain ⟨front, back, hfault⟩ := exists_fault?_set s r
  by_cases hport : r.server.port = 0
  · exact .inr ⟨.zeroPort, fun u => by rw [hfault, if_pos hport]⟩
  by_cases hversion : Text.isBlankText r.version = true
  · exact .inr ⟨.blankVersion, fun u => by rw [hfault, if_neg hport, if_pos hversion]⟩
  cases hfront : front.find? fun x => Text.isBlankText x.2 with
  | some x =>
    refine .inr ⟨.blank x.1, fun u => ?_⟩
    rw [hfault, if_neg hport, if_neg hversion, List.find?_append, hfront, Option.some_or,
      Option.map_some, Option.some_or]
  | none =>
    refine .inl ?_
    rw [hfault, if_neg hport, if_neg hversion, List.find?_append, hfront, Option.none_or,
      List.find?_cons_of_pos (by simp [ht]), Option.map_some, Option.some_or]

/-- The faults of a value of a secret: it is no text, and told at its place, or it is blank. -/
inductive Tells (s : Secret) (a : Datum) (f : StartupFault) : Prop
  | misfit {place : List Place} {g : Fault} {file : Option String} (hplace : place ∈ s.places)
    (hread : readText a = .error g)
    (h : f.Same (.misread ⟨⟨place.map Place.text, g.cause⟩, file⟩))
  | blank {t : String} (hread : readText a = .ok t) (hblank : Text.isBlankText t = true)
    (h : f = .setting (.blank s.name))

/-- Data that are read as a text which shows a character. -/
def IsShown (a : Datum) : Prop := ∃ t, readText a = .ok t ∧ Text.isBlankText t = false

/-- Of a text that shows a character nothing is told. -/
theorem Tells.not_isShown {f : StartupFault} (h : Tells s a f) : ¬IsShown a := by
  rintro ⟨t, hread, hshown⟩
  cases h with
  | misfit _ hmisfit _ =>
    rw [hread] at hmisfit
    cases hmisfit
  | blank hblank hall _ =>
    rw [hread] at hblank
    rw [Except.ok.inj hblank, hall] at hshown
    cases hshown

theorem parallel_checked (h : Apart s.set (readText a = .ok ·) (readText b = .ok ·) c c') :
    Parallel StartupFault.Same (Tells s a) (Tells s b)
      (Apart s.set (readText a = .ok ·) (readText b = .ok ·)) (checked c) (checked c') := by
  have hsame : c.fault? = c'.fault? → Parallel StartupFault.Same (Tells s a) (Tells s b)
      (Apart s.set (readText a = .ok ·) (readText b = .ok ·)) (checked c) (checked c') := by
    intro hfault
    rw [checked, checked, ← hfault]
    cases c.fault? with
    | none => exact h
    | some f => exact .inl rfl
  rcases h with rfl | ⟨r, t, u, ht, hu, rfl, rfl⟩
  · exact hsame rfl
  -- A blank text is told, unless a fault that both have comes before it.
  cases hblankT : Text.isBlankText t with
  | true =>
    rcases fault?_set_of_blank s r hblankT with hblank | ⟨f, hall⟩
    · have htells : Tells s a (.setting (.blank s.name)) := .blank ht hblankT rfl
      rw [checked, hblank]
      cases checked (s.set r u) with
      | error g => exact .inr (.inl htells)
      | ok _ => exact htells
    · exact hsame ((hall t).trans (hall u).symm)
  | false =>
    cases hblankU : Text.isBlankText u with
    | true =>
      rcases fault?_set_of_blank s r hblankU with hblank | ⟨f, hall⟩
      · have htells : Tells s b (.setting (.blank s.name)) := .blank hu hblankU rfl
        rw [checked, checked, hblank]
        cases (s.set r t).fault? with
        | none => exact htells
        | some f => exact .inr (.inr htells)
      · exact hsame ((hall t).trans (hall u).symm)
    | false => exact hsame (fault?_set_of_shown s r hblankT hblankU)

/-! ## Layers -/

theorem key_congr {m m' : Misread} (hpath : m.fault.path = m'.fault.path) (hfile : m.file = m'.file) :
    m.key = m'.key := by
  rw [Misread.key, Misread.key, hpath, hfile]

theorem source_congr {m m' : Misread} (hfile : m.file = m'.file) : m.source = m'.source := by
  rw [Misread.source, Misread.source, hfile]

theorem message_congr {m m' : Misread} (h : m.fault.Same m'.fault) (hfile : m.file = m'.file) :
    m.message = m'.message := by
  rw [Misread.message, Misread.message, h.1, h.2, key_congr h.1 hfile, source_congr hfile]

theorem same_misread {m m' : Misread} (h : m.fault.Same m'.fault) (hfile : m.file = m'.file) :
    StartupFault.Same (.misread m) (.misread m') :=
  congrArg ("Configuration error: " ++ ·) (message_congr h hfile)

/-- Layers are alike but for a secret, and a fault is seen in layers of one name. -/
structure Differ (s : Secret) (a b : Datum) (l l' : Layers) : Prop where
  seen : ∃ place ∈ s.places, Alike (Stands a b) place l.seen l'.seen
  source : ∀ f g : Fault, f.path = g.path → (s.path <+: f.path → f.path = s.path) →
    (l.misread f).file = (l'.misread g).file

theorem ofLayers_eq (l : Layers) :
    ofLayers l = (Config.read .setting l.seen).mapError fun f => .misread (l.misread f) := by
  rw [ofLayers]
  cases Config.read .setting l.seen <;> rfl

theorem fault_misread (l : Layers) (f : Fault) : (l.misread f).fault = f := by
  rw [Layers.misread]
  split <;> rfl

theorem tells_misread {place : List Place} {f : Fault} (hplace : place ∈ s.places)
    (h : Misfit place a f) (l : Layers) : Tells s a (.misread (l.misread f)) := by
  obtain ⟨hpath, g, hread, hcause⟩ := h
  refine .misfit hplace hread (same_misread ?_ rfl)
  rw [fault_misread]
  exact ⟨hpath, hcause⟩

theorem parallel_ofLayers (h : Differ s a b l l') :
    Parallel StartupFault.Same (Tells s a) (Tells s b)
      (Apart s.set (readText a = .ok ·) (readText b = .ok ·)) (ofLayers l) (ofLayers l') := by
  obtain ⟨place, hplace, halike⟩ := h.seen
  rw [ofLayers_eq, ofLayers_eq]
  refine (parallel_read hplace halike).mapError (fun f g hf _ hsame => ?_)
    (fun f _ hf => tells_misread hplace hf l) fun g _ hg => tells_misread hplace hg l'
  refine same_misread ?_ (h.source f g hsame.1 (path_of_read_error hf))
  rwa [fault_misread, fault_misread]

/-! ## Supplying a secret -/

/-- Two documents are alike but for a secret. -/
inductive InDocuments (s : Secret) (a b : Datum) (text text' : String) : Prop
  | intro {ds es : List (String × Datum)} {place : List Place} (hplace : place ∈ s.places)
    (hds : Yaml.readTable? text = some ds) (hes : Yaml.readTable? text' = some es)
    (h : Alike (Stands a b) place (.table ds) (.table es))

/-- A secret is supplied with one value and with another, in a file or as a variable. -/
inductive Supplied (s : Secret) (a b : Datum) :
    Option File → Environment → Option File → Environment → Prop
  | inFile {text text' : String} (name : String) (env : Environment)
    (h : InDocuments s a b text text') :
    Supplied s a b (some ⟨name, some text⟩) env (some ⟨name, some text'⟩) env
  | asVariable {n v w : String} (file : Option File) (env : Environment)
    (hn : Environment.pathOf? n = some s.path) (ha : Environment.valueOf v = a)
    (hb : Environment.valueOf w = b) : Supplied s a b file (env.insert n v) file (env.insert n w)

/-- The layers of a file and of an environment with a variable set. -/
def layersWith (below : Option (String × Datum)) (env : Environment) (n v : String) : Layers :=
  ⟨below, Environment.settings (env.insert n v)⟩

theorem alike_seen {n : String} (hn : Environment.pathOf? n = some s.path)
    (below : Option (String × Datum)) (env : Environment) (v w : String) :
    Alike (Stands (Environment.valueOf v) (Environment.valueOf w)) (s.path.map .key)
      (layersWith below env n v).seen (layersWith below env n w).seen := by
  have halike := Environment.alike_settings env (v := v) (w := w) hn rfl rfl
  cases below with
  | none => exact halike
  | some below => exact halike.overlay (.refl _ below.2)

theorem differ_variable {n : String} (hn : Environment.pathOf? n = some s.path)
    (below : Option (String × Datum)) (env : Environment) (v w : String) :
    Differ s (Environment.valueOf v) (Environment.valueOf w) (layersWith below env n v)
      (layersWith below env n w) := by
  refine ⟨⟨_, s.path_mem_places, alike_seen hn below env v w⟩, fun f g hpath hends => ?_⟩
  cases below with
  | none => rfl
  | some below =>
    -- Where the environments give something they both do, so that a fault is laid to the same layer.
    have halike := Environment.alike_settings env (v := v) (w := w) hn rfl rfl
    simp only [layersWith, Layers.misread, ← hpath, halike.isSome_at? hends]

theorem Supplied.parallel_layers (h : Supplied s a b file env file' env') :
    Parallel StartupFault.Same (fun _ => False) (fun _ => False) (Differ s a b)
      (layers file env) (layers file' env') := by
  cases h with
  | inFile name env h =>
    obtain ⟨hplace, hds, hes, halike⟩ := h
    rw [layers_file hds, layers_file hes]
    refine ⟨⟨_, hplace, Alike.overlay (.refl _ _) halike⟩, fun f g hpath _ => ?_⟩
    simp only [Layers.misread, hpath]
  | asVariable file env hn ha hb =>
    subst ha hb
    cases file with
    | none => exact differ_variable hn none env _ _
    | some f =>
      simp only [layers]
      cases f.settings with
      | error e => exact .inl rfl
      | ok below => exact differ_variable hn (some (f.name, below)) env _ _

/-- **Two loads with a secret supplied in two ways.** -/
theorem parallel_load (h : Supplied s a b file env file' env') :
    Parallel StartupFault.Same (Tells s a) (Tells s b)
      (Apart s.set (readText a = .ok ·) (readText b = .ok ·)) (load file env) (load file' env') :=
  (h.parallel_layers.mono (fun _ => False.elim) fun _ => False.elim).bind fun _ _ hl =>
    (parallel_ofLayers hl).bind fun _ _ hc => parallel_checked hc

end Secret

end AccessBroker
