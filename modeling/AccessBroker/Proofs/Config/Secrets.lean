/-
The three secrets of a configuration.

A configuration is read from data with a secret at one of the places where it may stand. Read from
other data at that place, and everything else equal, it comes out the same but for the secret
(`Secret.parallel_read`); what a path leads to is what the secret is read from
(`Secret.readText_of_read`), and no fault stands below it (`Secret.path_of_read_error`).
-/
import AccessBroker.Proofs.Config.Settings

namespace AccessBroker

open Datum Config

/-- The secrets of a configuration. -/
inductive Secret where
  | password
  | salt
  /-- What the external application and the service share. -/
  | shared
  deriving DecidableEq

namespace Secret

/-- The group of settings that the secret belongs to. -/
def group : Secret → String
  | password | salt => "cookie"
  | shared => "external"

/-- The key in the group. -/
def key : Secret → String
  | password => "password"
  | salt => "salt"
  | shared => "secret"

/-- The place among the settings of the group. -/
def index : Secret → Nat
  | password | shared => 0
  | salt => 1

/-- The name of the setting. -/
def name : Secret → String
  | password => "cookie.password"
  | salt => "cookie.salt"
  | shared => "external.secret"

/-- The keys that lead to the setting. -/
def path (s : Secret) : List String := [s.group, s.key]

/-- Where the setting may stand; the settings of a group may be given in their order. -/
def places (s : Secret) : List (List Place) :=
  [[.key s.group, .key s.key], [.key s.group, .element s.index]]

/-- The secret of a configuration. -/
def of : Secret → Config → String
  | password, c => c.cookie.password
  | salt, c => c.cookie.salt
  | shared, c => c.external.secret

/-- A configuration with another secret. -/
def set : Secret → Config → String → Config
  | password, c, t => { c with cookie := { c.cookie with password := t } }
  | salt, c, t => { c with cookie := { c.cookie with salt := t } }
  | shared, c, t => { c with external := { c.external with secret := t } }

theorem isPart (s : Secret) : IsPart s.of s.set := by
  cases s <;> exact ⟨fun _ _ => rfl, fun _ => rfl, fun _ _ _ => rfl⟩

theorem path_mem_places (s : Secret) : s.path.map .key ∈ s.places := List.mem_cons_self

/-! ## Two readings -/

section

variable {τ : Type} {A B : τ → Prop} {P Q : Fault → Prop} {R : Datum → Datum → Prop}
  {path : List Place} {a d e : Datum}

/-- Two configurations read from data that are alike but for a part of a group. -/
theorem parallel_group (g : Group) {inner : g.Record → τ → g.Record}
    (hinner : ∀ d e, Alike R path d e →
      Parallel Fault.Same P Q (Apart inner A B) (g.read d) (g.read e))
    (h : Alike R (.key g.key :: path) d e) :
    Parallel Fault.Same (Below g.key P) (Below g.key Q)
      (Apart (fun c t => g.put c (inner (g.get c) t)) A B)
      (Config.read .setting d) (Config.read .setting e) := by
  have hholds : Holds g.put inner fun c t => g.put c (inner (g.get c) t) := by
    cases g <;> exact ⟨fun _ _ _ => rfl, fun _ _ _ => rfl⟩
  exact parallel_readRecord (g.lone_inner inner) (.inl rfl)
    (fun x y s s' hxy hs => hholds.parallel (hinner x y hxy) hs) h

/-- The fault of data at a place that are no text. -/
def Misfit (place : List Place) (a : Datum) (f : Fault) : Prop :=
  f.path = place.map Place.text ∧
    ∃ g, readText a = .error g ∧ f.cause.settingMessage = g.cause.settingMessage

theorem misfit_of_below {k : String} {q : Place} {f : Fault}
    (h : Below k (Below q.text (Untold a)) f) : Misfit [.key k, q] a f := by
  obtain ⟨_, ⟨_, ⟨hpath, hcause⟩, rfl⟩, rfl⟩ := h
  exact ⟨by simp [hpath, Place.text], hcause⟩

end

variable {s : Secret} {a b d e : Datum} {c : Config}

/-- **Two configurations read from data that are alike but for a secret.** -/
theorem parallel_read {place : List Place} (hplace : place ∈ s.places)
    (h : Alike (Stands a b) place d e) :
    Parallel Fault.Same (Misfit place a) (Misfit place b)
      (Apart s.set (readText a = .ok ·) (readText b = .ok ·))
      (Config.read .setting d) (Config.read .setting e) := by
  obtain ⟨q, hq, rfl⟩ :
      ∃ q, (q = .key s.key ∨ q = .element s.index) ∧ place = [.key s.group, q] := by
    rcases List.mem_cons.mp hplace with rfl | hplace
    · exact ⟨_, .inl rfl, rfl⟩
    · exact ⟨_, .inr rfl, List.mem_singleton.mp hplace⟩
  cases s with
  | password =>
    exact (parallel_group .cookie
      (fun x y => parallel_readRecord_text (Member.lone .password) (fun _ _ _ => rfl) hq) h).mono
      (fun _ => misfit_of_below) fun _ => misfit_of_below
  | salt =>
    exact (parallel_group .cookie
      (fun x y => parallel_readRecord_text (Member.lone .salt) (fun _ _ _ => rfl) hq) h).mono
      (fun _ => misfit_of_below) fun _ => misfit_of_below
  | shared =>
    exact (parallel_group .external
      (fun x y => parallel_readRecord_text (Member.lone .secret) (fun _ _ _ => rfl) hq) h).mono
      (fun _ => misfit_of_below) fun _ => misfit_of_below

/-! ## One reading -/

/-- The setting that holds the secret. -/
def setting : Secret → Setting
  | password => .member .password
  | salt => .member .salt
  | shared => .member .secret

theorem path_setting (s : Secret) : s.setting.path = s.path := by
  cases s <;> rfl

/-- **The secret is read from what its path leads to.** -/
theorem readText_of_read (hkeyed : IsKeyed d) (hd : Supplies a s.path d)
    (h : Config.read .setting d = .ok c) : readText a = .ok (s.of c) := by
  rw [← path_setting] at hd
  obtain ⟨x, hx, hkin⟩ := Setting.exists_data?_of_supplies hd
  have hread := s.setting.readOr_of_read hkeyed h
  rw [hx] at hread
  refine hkin.readText.1 _ ?_
  cases s <;> exact hread

theorem path_of_text {f : Fault} {σ : Type} {fields : List (Datum.Field σ)} {key : String} {i : Nat}
    {put : σ → String → σ} {name : String} {start : σ} {path : List String}
    (hlone : Field.Lone fields (.of key readText put) i put)
    (hword : ∃ c ∈ key.toList, Text.digit? c = none) (hpath : f.path = key :: path)
    (h : readRecord .setting name fields start d = .error f) : path = [] := by
  obtain ⟨x, r, g, hread, rfl⟩ := exists_of_readRecord_error hlone hword hpath h
  exact path_of_readText (Field.exists_of_read_error hread)

/-- **No fault stands below a secret.** -/
theorem path_of_read_error {f : Fault} (h : Config.read .setting d = .error f)
    (hpath : s.path <+: f.path) : f.path = s.path := by
  obtain ⟨rest, hrest⟩ := hpath
  have hnil : rest = [] := by
    cases s with
    | password =>
      obtain ⟨x, r, g, hread, hg⟩ := exists_of_readRecord_error (Group.lone .cookie)
        ⟨'c', by decide, by decide⟩ hrest.symm h
      exact path_of_text (Member.lone .password) ⟨'p', by decide, by decide⟩ hg
        (Field.exists_of_read_error hread)
    | salt =>
      obtain ⟨x, r, g, hread, hg⟩ := exists_of_readRecord_error (Group.lone .cookie)
        ⟨'c', by decide, by decide⟩ hrest.symm h
      exact path_of_text (Member.lone .salt) ⟨'s', by decide, by decide⟩ hg (Field.exists_of_read_error hread)
    | shared =>
      obtain ⟨x, r, g, hread, hg⟩ := exists_of_readRecord_error (Group.lone .external)
        ⟨'e', by decide, by decide⟩ hrest.symm h
      exact path_of_text (Member.lone .secret) ⟨'s', by decide, by decide⟩ hg
        (Field.exists_of_read_error hread)
  rw [← hrest, hnil, List.append_nil]

end Secret

end AccessBroker
