/-
Secrets by reference.

A secret behind the mark of a reference is the value of the variable that it names, which is set and
not empty; any other secret is the text itself (`resolve_eq_ok_iff`). A reference is refused if the
variable is not set or empty, and nothing else is (`resolve_eq_error_iff`).
-/
import AccessBroker.Environment.Basic
import AccessBroker.Proofs.Text.Number

namespace AccessBroker.Environment

/-- A text that refers to a variable. -/
def reference (name : String) : String := "env:" ++ name

theorem after?_referenceMark_iff {value : String} {cs : List Char} :
    Text.after? referenceMark value.toList = some cs ↔ value = reference (String.ofList cs) := by
  rw [Text.after?_eq_some_iff, referenceMark, reference, ← String.toList_inj, String.toList_append,
    String.toList_ofList (l := cs)]

/-- **What a secret stands for.** -/
theorem resolve_eq_ok_iff {env : Environment} {setting value used : String} :
    env.resolve setting value = .ok used ↔
      (∃ name, value = reference name ∧ env.get? name = some used ∧ used ≠ "") ∨
        (∀ name, value ≠ reference name) ∧ used = value := by
  rw [resolve]
  cases hafter : Text.after? referenceMark value.toList with
  | none =>
    have hnot : ∀ name, value ≠ reference name := by
      intro name hname
      rw [← String.ofList_toList (s := name), ← after?_referenceMark_iff, hafter] at hname
      cases hname
    constructor
    · intro h
      exact .inr ⟨hnot, (Except.ok.inj h).symm⟩
    · rintro (⟨name, hname, -⟩ | ⟨-, rfl⟩)
      · exact absurd hname (hnot name)
      · rfl
  | some cs =>
    have hvalue := after?_referenceMark_iff.mp hafter
    have hname : ∀ {name : String}, value = reference name → name = String.ofList cs := by
      intro name hname
      rw [← String.ofList_toList (s := name), ← after?_referenceMark_iff, hafter] at hname
      rw [Option.some.inj hname, String.ofList_toList]
    dsimp only
    constructor
    · intro h
      split at h
      · cases h
      · next found hfound =>
        split at h
        · cases h
        · next hempty =>
          rw [← Except.ok.inj h]
          exact .inl ⟨_, hvalue, hfound, by simpa using hempty⟩
    · rintro (⟨name, hreference, hget, hne⟩ | ⟨hnot, -⟩)
      · rw [← hname hreference, hget]
        exact if_neg (by simpa using hne)
      · exact absurd hvalue (hnot _)

/-- A secret stands for a text: it refers to a variable that holds the text, which is not empty, or
it refers to none and is the text. -/
def StandsFor (env : Environment) (value used : String) : Prop :=
  (∃ name, value = reference name ∧ env.get? name = some used ∧ used ≠ "") ∨
    (∀ name, value ≠ reference name) ∧ used = value

theorem standsFor_iff {env : Environment} {value used : String} (setting : String) :
    env.StandsFor value used ↔ env.resolve setting value = .ok used :=
  resolve_eq_ok_iff.symm

/-- Only a secret that is empty itself stands for the empty text. -/
theorem eq_empty_iff_of_resolve {env : Environment} {setting value used : String}
    (h : env.resolve setting value = .ok used) : used = "" ↔ value = "" := by
  rcases resolve_eq_ok_iff.mp h with ⟨name, rfl, -, hne⟩ | ⟨-, rfl⟩
  · have hvalue : reference name ≠ "" := by
      rw [reference, Ne, String.append_eq_empty_iff]
      exact fun h => absurd h.1 (by decide)
    exact ⟨fun h => absurd h hne, fun h => absurd h hvalue⟩
  · rfl

/-! ## Secrets that are refused -/

/-- A reference is refused if its variable is not set, or empty. -/
theorem resolve_reference_eq_error_iff {env : Environment} {setting name : String} {f : SecretFault} :
    env.resolve setting (reference name) = .error f ↔
      env.get? name = none ∧ f = ⟨setting, name, false⟩ ∨
        env.get? name = some "" ∧ f = ⟨setting, name, true⟩ := by
  have hafter : Text.after? referenceMark (reference name).toList = some name.toList := by
    rw [after?_referenceMark_iff, String.ofList_toList]
  rw [resolve, hafter]
  simp only [String.ofList_toList]
  cases env.get? name with
  | none => simp [eq_comm]
  | some found =>
    by_cases hfound : found = ""
    · simp [hfound, eq_comm (a := f)]
    · simp [hfound]

/-- **What is refused as a secret.** -/
theorem resolve_eq_error_iff {env : Environment} {setting value : String} {f : SecretFault} :
    env.resolve setting value = .error f ↔ ∃ name, value = reference name ∧
      (env.get? name = none ∧ f = ⟨setting, name, false⟩ ∨
        env.get? name = some "" ∧ f = ⟨setting, name, true⟩) := by
  constructor
  · intro h
    by_cases href : ∃ name, value = reference name
    · obtain ⟨name, rfl⟩ := href
      exact ⟨name, rfl, resolve_reference_eq_error_iff.mp h⟩
    · have hok : env.resolve setting value = .ok value :=
        resolve_eq_ok_iff.mpr (.inr ⟨fun name hname => href ⟨name, hname⟩, rfl⟩)
      rw [hok] at h
      cases h
  · rintro ⟨name, rfl, h⟩
    exact resolve_reference_eq_error_iff.mpr h

end AccessBroker.Environment
