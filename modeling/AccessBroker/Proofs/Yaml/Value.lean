/-
What a document holds.

The data of a document hold each key once in every table (`isKeyed_readTable?`).
-/
import AccessBroker.Proofs.Datum.Keyed
import AccessBroker.Yaml.Value

namespace AccessBroker.Yaml

open Datum

namespace Scalar

theorem isKeyed_of_float? {s : String} {d : Datum} (h : float? s = some d) : IsKeyed d := by
  rw [float?] at h
  split at h
  · next hspecial =>
    rw [special?] at hspecial
    cases h
    split at hspecial
    · cases hspecial
      exact .simple (by simp) (by simp)
    · split at hspecial
      · cases hspecial
        exact .simple (by simp) (by simp)
      · split at hspecial
        · cases hspecial
          exact .simple (by simp) (by simp)
        · cases hspecial
  · split at h
    · cases h
      exact .simple (by simp) (by simp)
    · cases h

theorem isKeyed_plain (s : String) : IsKeyed (plain s) := by
  rw [plain]
  split
  · exact .simple (by simp) (by simp)
  · split
    · exact .simple (by simp) (by simp)
    · split
      · exact .simple (by simp) (by simp)
      · split
        · next hfloat =>
          split at hfloat
          · cases hfloat
          · exact isKeyed_of_float? hfloat
        · exact .simple (by simp) (by simp)

theorem isKeyed_of_tagged? {kind s : String} {d : Datum} (h : tagged? kind s = some d) :
    IsKeyed d := by
  rw [tagged?] at h
  split at h
  · obtain ⟨b, -, rfl⟩ := Option.map_eq_some_iff.mp h
    exact .simple (by simp) (by simp)
  · split at h
    · obtain ⟨n, -, rfl⟩ := Option.map_eq_some_iff.mp h
      exact .simple (by simp) (by simp)
    · split at h
      · exact isKeyed_of_float? h
      · split at h
        · split at h
          · cases h
            exact .simple (by simp) (by simp)
          · cases h
        · cases h
          exact .simple (by simp) (by simp)

theorem isKeyed_of_value? {tag : Option String} {isPlain : Bool} {s : String} {d : Datum}
    (h : value? tag isPlain s = some d) : IsKeyed d := by
  have huntagged : IsKeyed (if isPlain then plain s else .text s) := by
    split
    · exact isKeyed_plain s
    · exact .simple (by simp) (by simp)
  unfold value? at h
  dsimp only at h
  split at h
  · rw [← Option.some.inj h]
    exact huntagged
  · split at h
    · rw [← Option.some.inj h]
      exact huntagged
    · split at h
      · cases h
      · exact isKeyed_of_tagged? h

end Scalar

namespace Node

mutual

theorem isKeyed_of_value? : ∀ {n : Node} {d : Datum}, n.value? = some d → IsKeyed d
  | scalar tag isPlain s, d, h => by
    rw [value?] at h
    exact Scalar.isKeyed_of_value? h
  | sequence tag ns, d, h => by
    rw [value?] at h
    split at h
    · cases h
    · obtain ⟨ds, hds, rfl⟩ := Option.map_eq_some_iff.mp h
      exact .list (isKeyed_of_valueList? hds)
  | mapping tag ns, d, h => by
    rw [value?] at h
    split at h
    · cases h
    · obtain ⟨es, hes, rfl⟩ := Option.map_eq_some_iff.mp h
      exact isKeyed_of_valueEntries? hes .empty

theorem isKeyed_of_valueList? : ∀ {ns : List Node} {ds : List Datum}, valueList? ns = some ds →
    ∀ d ∈ ds, IsKeyed d
  | [], ds, h => by
    rw [valueList?] at h
    cases h
    exact List.forall_mem_nil _
  | n :: rest, ds, h => by
    rw [valueList?] at h
    obtain ⟨d, hd, h⟩ := Option.bind_eq_some_iff.mp h
    obtain ⟨more, hmore, h⟩ := Option.bind_eq_some_iff.mp h
    cases h
    exact List.forall_mem_cons.mpr ⟨isKeyed_of_value? hd, isKeyed_of_valueList? hmore⟩

theorem isKeyed_of_valueEntries? : ∀ {ns : List (Node × Node)} {done es : List (String × Datum)},
    valueEntries? done ns = some es → IsKeyed (.table done) → IsKeyed (.table es)
  | [], done, es, h, hdone => by
    rw [valueEntries?] at h
    cases h
    exact hdone
  | (scalar _ _ key, n) :: rest, done, es, h, hdone => by
    rw [valueEntries?] at h
    obtain ⟨d, hd, h⟩ := Option.bind_eq_some_iff.mp h
    exact isKeyed_of_valueEntries? h ((isKeyed_of_value? hd).put hdone)
  | (sequence _ _, _) :: _, done, es, h, _ => by
    rw [valueEntries?] at h
    cases h
    simp
  | (mapping _ _, _) :: _, done, es, h, _ => by
    rw [valueEntries?] at h
    cases h
    simp

end

end Node

/-- **A document holds each key once.** -/
theorem isKeyed_readTable? {text : String} {es : List (String × Datum)}
    (h : readTable? text = some es) : IsKeyed (.table es) := by
  obtain ⟨node, -, h⟩ := Option.bind_eq_some_iff.mp h
  split at h
  · cases h
    exact .empty
  · split at h
    · unfold Node.table? at h
      split at h
      · split at h
        · cases h
          exact .empty
        · cases h
      · cases h
      · exact Node.isKeyed_of_valueEntries? h .empty
    · cases h

end AccessBroker.Yaml
