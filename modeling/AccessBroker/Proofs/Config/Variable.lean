/-
Loading a configuration with a secret in a variable.

Where a configuration loads with one value of the variable, and no other variable gives the setting,
it loads with any other value that is read as a text which shows a character, and the secret is that
text; with any other value the load fails, and tells why. So the secret is what the variable says, to
the character, exactly if the value has no looks (`Secret.load_insert`); digits have, and so has a word
in quotes (`Secret.exists_load_insert_ne`).
-/
import AccessBroker.Proofs.Broker.Basic
import AccessBroker.Proofs.Config.Load

namespace AccessBroker.Secret

open Datum Config Environment

variable {s : Secret} {file : Option File} {env : Environment} {n v w t : String} {c : Config}
  {below : Option (String × Datum)}

/-! ## Checks -/

/-- In a configuration that is checked, a secret may be replaced by any text that shows. -/
theorem checked_set (hc : c.fault? = none) (t : String) : checked (s.set c t) =
    if Text.isBlankText t then .error (.setting (.blank s.name)) else .ok (s.set c t) := by
  have hself : s.set c (s.of c) = c := s.isPart.set_get c
  have hnot : ¬∃ f, ∀ u, (s.set c u).fault? = some f := by
    rintro ⟨f, hall⟩
    have hf := hall (s.of c)
    rw [hself, hc] at hf
    cases hf
  have hshown : Text.isBlankText (s.of c) = false := by
    refine Bool.eq_false_iff.mpr fun hblank => ?_
    rcases fault?_set_of_blank s c hblank with hfault | hall
    · rw [hself, hc] at hfault
      cases hfault
    · exact hnot hall
  by_cases hblank : Text.isBlankText t = true
  · rw [checked, (fault?_set_of_blank s c hblank).resolve_right hnot, if_pos hblank]
  · have hfault := fault?_set_of_shown s c (Bool.eq_false_iff.mpr hblank) hshown
    rw [checked, hfault, hself, hc, if_neg hblank]

/-! ## Layers -/

/-- Where a load comes to an end, its layers are those of the file, whatever the environment. -/
theorem exists_layers (h : load file env = .ok c) : ∃ below : Option (String × Datum),
    (∀ env : Environment, layers file env = .ok ⟨below, env.settings⟩) ∧
      ∀ name d, below = some (name, d) → IsKeyed d := by
  obtain ⟨es, -, hkeyed, hlayers⟩ := exists_entries h
  refine ⟨_, hlayers, ?_⟩
  intro name d hbelow
  obtain ⟨f, -, hf⟩ := Option.map_eq_some_iff.mp hbelow
  cases hf
  exact hkeyed

theorem isKeyed_seen (hkeyed : ∀ name d, below = some (name, d) → IsKeyed d) :
    IsKeyed (layersWith below env n v).seen := by
  cases below with
  | none => exact isKeyed_settings _
  | some below => exact (isKeyed_settings _).overlay (hkeyed below.1 below.2 rfl)

theorem supplies_seen (hn : pathOf? n = some s.path) (halone : Alone n s.path env.entries) :
    Supplies (valueOf v) s.path (layersWith below env n v).seen := by
  have hsupplies := supplies_settings hn halone v
  cases below with
  | none => exact hsupplies
  | some below => exact hsupplies.overlay (isKeyed_settings _) below.2

/-- A fault at the setting is seen in the environment. -/
theorem file_misread (hn : pathOf? n = some s.path) (halone : Alone n s.path env.entries)
    {f : Fault} (hpath : f.path = s.path) :
    ((layersWith below env n v).misread f).file = none := by
  have hsome := (supplies_settings hn halone v).isSome_at?
  cases below with
  | none => rfl
  | some below => simp only [layersWith, Layers.misread, hpath, hsome, if_pos]

/-! ## Reading -/

/-- What is read with another value of the variable. -/
theorem read_seen (hn : pathOf? n = some s.path) (halone : Alone n s.path env.entries)
    (hkeyed : ∀ name d, below = some (name, d) → IsKeyed d)
    (hw : Config.read .setting (layersWith below env n w).seen = .ok c) (v : String) :
    (∃ t, readText (valueOf v) = .ok t ∧
      Config.read .setting (layersWith below env n v).seen = .ok (s.set c t)) ∨
    ∃ f g, readText (valueOf v) = .error g ∧ f.Same ⟨s.path, g.cause⟩ ∧
      Config.read .setting (layersWith below env n v).seen = .error f := by
  have hparallel := parallel_read s.path_mem_places (alike_seen hn below env v w)
  rw [hw] at hparallel
  cases hread : Config.read .setting (layersWith below env n v).seen with
  | error f =>
    rw [hread] at hparallel
    obtain ⟨hpath, g, hg, hcause⟩ := hparallel
    exact .inr ⟨f, g, hg, ⟨hpath, hcause⟩, rfl⟩
  | ok c' =>
    rw [hread] at hparallel
    have ht := readText_of_read (isKeyed_seen hkeyed) (supplies_seen hn halone) hread
    refine .inl ⟨s.of c', ht, congrArg Except.ok ?_⟩
    rcases hparallel with rfl | ⟨r, t, u, -, -, rfl, rfl⟩
    · exact (s.isPart.set_get c').symm
    · rw [s.isPart.get_set, s.isPart.set_set]

/-! ## Loading -/

/-- **What is loaded with another value of the variable.** -/
theorem load_insert_cases (hn : pathOf? n = some s.path) (halone : Alone n s.path env.entries)
    (hc : load file (env.insert n w) = .ok c) (v : String) :
    (∃ t, readText (valueOf v) = .ok t ∧ load file (env.insert n v) =
      if Text.isBlankText t then .error (.setting (.blank s.name)) else .ok (s.set c t)) ∨
    ∃ f g, readText (valueOf v) = .error g ∧ load file (env.insert n v) = .error f ∧
      f.Same (.misread ⟨⟨s.path, g.cause⟩, none⟩) := by
  obtain ⟨below, hlayers, hkeyed⟩ := exists_layers hc
  obtain ⟨hread, hvalid⟩ := read_of_load (hlayers _) hc
  rw [load_of_layers (hlayers (env.insert n v))]
  rcases read_seen hn halone hkeyed hread v with ⟨t, ht, hseen⟩ | ⟨f, g, hg, hsame, hseen⟩
  · refine .inl ⟨t, ht, ?_⟩
    rw [layersWith] at hseen
    rw [hseen]
    exact checked_set hvalid t
  · refine .inr ⟨_, g, hg, ?_, same_misread (m := (layersWith below env n v).misread f) ?_ ?_⟩
    · rw [layersWith] at hseen
      rw [hseen]
      rfl
    · rwa [fault_misread]
    · exact file_misread hn halone hsame.1

/-! ## Some values of a variable -/

/-- The variable of a secret. -/
def variableName : Secret → String
  | password => "HAUTH_COOKIE__PASSWORD"
  | salt => "HAUTH_COOKIE__SALT"
  | shared => "HAUTH_EXTERNAL__SECRET"

theorem pathOf?_variableName (s : Secret) : pathOf? s.variableName = some s.path := by
  cases s <;> decide

theorem valueOf_swordfish : valueOf "swordfish" = .text "swordfish" := by
  refine valueOf_eq_text (by decide) ?_
  exact not_looks_of_head rfl (by decide) (by decide) (by decide) (by decide)

theorem valueOf_mellon : valueOf "mellon" = .text "mellon" := by
  refine valueOf_eq_text (by decide) ?_
  exact not_looks_of_head rfl (by decide) (by decide) (by decide) (by decide)

theorem valueOf_digits : valueOf "12345" = .whole 12345 := by
  refine valueOf_of_core? (by decide)
    (core?_of_isNumeral _ (Text.forall_mem_of_all (by decide))) rfl

theorem valueOf_quoted : valueOf "\"mellon\"" = .text "mellon" := by
  have hquoted : quoted? ['m', 'e', 'l', 'l', 'o', 'n', '"'] =
      some (['m', 'e', 'l', 'l', 'o', 'n'], []) := by rfl
  have hcore : core? (2 * "\"mellon\"".length + 1) "\"mellon\"".toList =
      some (.text "mellon", []) := by
    change core? _ ('"' :: ['m', 'e', 'l', 'l', 'o', 'n', '"']) = _
    rw [core?.eq_5, hquoted]
    rfl
  exact valueOf_of_core? (by decide) hcore rfl

theorem exists_error {α : Type} {x : Except StartupFault α} {m : String} (hne : m ≠ "")
    (h : (match x with
      | .error f => f.message
      | .ok _ => "") = m) : ∃ f, x = .error f ∧ f.message = m := by
  cases x with
  | error f => exact ⟨f, rfl, h⟩
  | ok _ => exact absurd h.symm hne

/-! ## Secrets in variables -/

/-- **A secret in a variable.** Where a configuration loads with some value of the variable, with
another value the secret is what the variable says, to the character, exactly if the value has no
looks. In any case it is the text that the value is read as; the load fails if that text is blank,
and if the value is read as none. -/
theorem load_insert (hn : pathOf? n = some s.path) (halone : Alone n s.path env.entries)
    (hc : load file (env.insert n w) = .ok c) (htrim : Text.trim v = v) (hv : v ≠ "") :
    (load file (env.insert n v) = .ok (s.set c v) ↔ ¬Looks v) ∧
    (∀ t, readText (valueOf v) = .ok t → load file (env.insert n v) =
      if Text.isBlankText t then .error (.setting (.blank s.name)) else .ok (s.set c t)) ∧
    ∀ g, readText (valueOf v) = .error g → ∃ f, load file (env.insert n v) = .error f ∧
      f.message = (StartupFault.misread ⟨⟨s.path, g.cause⟩, none⟩).message := by
  have htoList : Text.trimChars v.toList = v.toList := by rw [← Text.toList_trim, htrim]
  have hlooks := readText_valueOf_eq_ok_iff htoList
  have hshown := Text.isBlankText_of_trim htrim hv
  rcases load_insert_cases hn halone hc v with ⟨t, ht, hload⟩ | ⟨f, g, hg, hload, hsame⟩
  · refine ⟨?_, fun u hu => ?_, fun g hg => ?_⟩
    · rw [← hlooks, ht, hload]
      constructor
      · intro hset
        split at hset
        · cases hset
        · rw [← s.isPart.get_set c t, Except.ok.inj hset, s.isPart.get_set]
      · intro heq
        rw [Except.ok.inj heq, if_neg (by simp [hshown])]
    · rw [ht] at hu
      rw [← Except.ok.inj hu, hload]
    · rw [ht] at hg
      cases hg
  · refine ⟨?_, fun u hu => ?_, fun g' hg' => ?_⟩
    · rw [← hlooks, hg, hload]
      exact iff_of_false (by simp) (by simp)
    · rw [hg] at hu
      cases hu
    · rw [hg] at hg'
      rw [← Except.error.inj hg']
      exact ⟨f, hload, hsame⟩

/-- A file with all secrets but the password. -/
def sampleFile : File := ⟨"hauth.yaml", some (sampleText "" "")⟩

theorem load_swordfish :
    load (some sampleFile) (Store.Table.empty.insert password.variableName "swordfish") =
      .ok (sample "swordfish") := by
  rw [load_insert_empty _ (pathOf?_variableName password) valueOf_swordfish]
  exact Broker.eq_ok_of_toOption (by decide +kernel)

/-- A word is the password it says, as another word is. -/
theorem load_insert_word :
    pathOf? password.variableName = some password.path ∧
    Alone password.variableName password.path (Store.Table.empty : Environment).entries ∧
    load (some sampleFile) (Store.Table.empty.insert password.variableName "swordfish") =
      .ok (sample "swordfish") ∧
    load (some sampleFile) (Store.Table.empty.insert password.variableName "mellon") =
      .ok (sample "mellon") := by
  have hn := pathOf?_variableName password
  have halone : Alone password.variableName password.path
      (Store.Table.empty : Environment).entries := fun _ h => absurd h List.not_mem_nil
  have hlooks : ¬Looks "mellon" :=
    not_looks_of_head rfl (by decide) (by decide) (by decide) (by decide)
  have hvariable := load_insert (v := "mellon") hn halone load_swordfish (by decide)
    (by decide)
  exact ⟨hn, halone, load_swordfish, hvariable.1.mpr hlooks⟩

/-- Where a word is the password it says, digits are none, and quotes do not count. -/
theorem exists_load_insert_ne :
    load (some sampleFile) (Store.Table.empty.insert password.variableName "swordfish") =
      .ok (sample "swordfish") ∧
    (∃ f, load (some sampleFile) (Store.Table.empty.insert password.variableName "12345") = .error f ∧
      f.message = "Configuration error: invalid type: found unsigned int `12345`, expected a string for key \"COOKIE.PASSWORD\" in `HAUTH_` environment variable(s)") ∧
    load (some sampleFile) (Store.Table.empty.insert password.variableName "\"mellon\"") =
      .ok (sample "mellon") := by
  refine ⟨load_swordfish, ?_, ?_⟩
  · rw [load_insert_empty _ (pathOf?_variableName password) valueOf_digits]
    exact exists_error (by decide +kernel) (by decide +kernel)
  · rw [load_insert_empty _ (pathOf?_variableName password) valueOf_quoted]
    exact Broker.eq_ok_of_toOption (by decide +kernel)

end AccessBroker.Secret
