/-
Data whose tables hold each key once.

Data laid over other data, and data at the end of a path of keys, stay so. A look-up in
entries laid over other entries then finds one of the two, or the one laid over the other
(`lookup_overlayEntries`).
-/
import AccessBroker.Datum.Overlay
import AccessBroker.Proofs.Store.Ordered
import AccessBroker.Proofs.Store.Table

namespace AccessBroker.Datum

/-- Every table in the data holds each key once. -/
inductive IsKeyed : Datum → Prop
  | simple {d : Datum} (hlist : ∀ ds, d ≠ list ds) (htable : ∀ es, d ≠ table es) : IsKeyed d
  | list {ds : List Datum} (helements : ∀ d ∈ ds, IsKeyed d) : IsKeyed (.list ds)
  | table {es : List (String × Datum)} (hnodup : (es.map Prod.fst).Nodup)
    (hentries : ∀ e ∈ es, IsKeyed e.2) : IsKeyed (.table es)

variable {d x : Datum} {es ds xs : List (String × Datum)}

namespace IsKeyed

theorem nodup (h : IsKeyed (.table es)) : (es.map Prod.fst).Nodup := by
  cases h with
  | simple _ htable => exact absurd rfl (htable es)
  | table hnodup _ => exact hnodup

theorem of_mem (h : IsKeyed (.table es)) {e : String × Datum} (he : e ∈ es) : IsKeyed e.2 := by
  cases h with
  | simple _ htable => exact absurd rfl (htable es)
  | table _ hentries => exact hentries e he

theorem of_lookup (h : IsKeyed (.table es)) {key : String} (hx : es.lookup key = some x) :
    IsKeyed x :=
  h.of_mem (Store.Table.mem_of_lookup hx)

theorem empty : IsKeyed (.table []) := .table List.nodup_nil (List.forall_mem_nil _)

theorem put {key : String} (hx : IsKeyed x) (h : IsKeyed (.table es)) :
    IsKeyed (.table (Store.Table.put key x es)) := by
  refine .table (Store.Table.nodup_keys_put h.nodup) fun e he => ?_
  rcases Store.Table.mem_of_mem_put he with rfl | he
  · exact hx
  · exact h.of_mem he

theorem nested (h : IsKeyed d) : ∀ path : List String, IsKeyed (Datum.nested d path)
  | [] => h
  | key :: path => by
    refine .table (List.nodup_cons.mpr ⟨List.not_mem_nil, List.nodup_nil⟩) fun e he => ?_
    rw [List.mem_singleton.mp he]
    exact nested h path

theorem overlayEntries (hover : ∀ e ∈ ds, ∀ x, IsKeyed x → IsKeyed (overlay e.2 x))
    (hds : ∀ e ∈ ds, IsKeyed e.2) (hxs : IsKeyed (.table xs)) :
    IsKeyed (.table (Datum.overlayEntries ds xs)) := by
  induction ds generalizing xs with
  | nil => exact hxs
  | cons e rest ih =>
    obtain ⟨key, d⟩ := e
    rw [Datum.overlayEntries]
    refine ih (fun e he => hover e (List.mem_cons_of_mem _ he))
      (fun e he => hds e (List.mem_cons_of_mem _ he)) (IsKeyed.put ?_ hxs)
    split
    · next x hx => exact hover (key, d) List.mem_cons_self x (hxs.of_lookup hx)
    · exact hds (key, d) List.mem_cons_self

/-- **Layers of data with each key once.** -/
theorem overlay (hd : IsKeyed d) (hx : IsKeyed x) : IsKeyed (Datum.overlay d x) := by
  induction hd generalizing x with
  | @simple d hlist htable =>
    cases d with
    | table es => exact absurd rfl (htable es)
    | _ => exact .simple hlist htable
  | list helements => exact .list helements
  | @table es hnodup hentries ih =>
    cases x with
    | table xs => exact overlayEntries (fun e he x hx => ih e he hx) hentries hx
    | _ => exact .table hnodup hentries

end IsKeyed

/-! ## Look-ups -/

theorem lookup_overlayEntries (h : (ds.map Prod.fst).Nodup) (xs : List (String × Datum))
    (k : String) : (overlayEntries ds xs).lookup k =
      match ds.lookup k, xs.lookup k with
      | some d, some x => some (overlay d x)
      | some d, none => some d
      | none, seen => seen := by
  induction ds generalizing xs with
  | nil => rfl
  | cons e rest ih =>
    obtain ⟨key, d⟩ := e
    rw [List.map_cons, List.nodup_cons] at h
    rw [overlayEntries, ih h.2]
    by_cases hk : k = key
    · subst hk
      rw [Store.lookup_eq_none_of_not_mem h.1, Store.Table.lookup_put_self, List.lookup_cons_self]
      cases xs.lookup k <;> rfl
    · have hne : (k == key) = false := by simpa using hk
      rw [Store.Table.lookup_put_of_ne hk, List.lookup_cons, hne]

end AccessBroker.Datum
