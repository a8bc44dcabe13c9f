/-
Entries in the order of their keys.

In order every key stands once (`nodup_inOrder`), and where each stood once
before, look-ups find what they found (`lookup_inOrder`). Entries that are in
order already stay as they are (`inOrder_of_pairwise`).
-/
import AccessBroker.Store.Ordered
import Mathlib.Data.String.Basic

namespace AccessBroker.Store

variable {α : Type}

theorem lookup_eq_none_of_not_mem {entries : List (String × α)} {k : String}
    (h : k ∉ entries.map Prod.fst) : entries.lookup k = none := by
  refine List.lookup_eq_none_iff.mpr fun e he => ?_
  simpa using fun heq : k = e.1 => h (List.mem_map.mpr ⟨e, he, heq.symm⟩)

theorem lookup_insertInOrder (key k : String) (v : α) : ∀ entries : List (String × α),
    (insertInOrder key v entries).lookup k = if k = key then some v else entries.lookup k
  | [] => by
    by_cases hk : k = key
    · rw [insertInOrder, if_pos hk, hk, List.lookup_cons_self]
    · have hne : (k == key) = false := by simpa using hk
      rw [insertInOrder, if_neg hk, List.lookup_cons, hne]
  | (key', w) :: rest => by
    have ih := lookup_insertInOrder key k v rest
    rw [insertInOrder]
    by_cases hk : k = key
    · subst hk
      split
      · rw [if_pos rfl, List.lookup_cons_self]
      · next hne =>
        have hne' : (k == key') = false := by simpa using hne
        split
        · rw [if_pos rfl, List.lookup_cons_self]
        · rw [List.lookup_cons, hne', ih, if_pos rfl, if_pos rfl]
    · have hne : (k == key) = false := by simpa using hk
      rw [if_neg hk] at ih ⊢
      split
      · next heq => rw [List.lookup_cons, hne, List.lookup_cons, ← heq, hne]
      · split
        · rw [List.lookup_cons, hne]
        · rw [List.lookup_cons, ih, List.lookup_cons]

theorem mem_of_mem_insertInOrder {key : String} {v : α} {e : String × α} :
    ∀ {entries : List (String × α)}, e ∈ insertInOrder key v entries → e = (key, v) ∨ e ∈ entries
  | [], h => .inl (List.mem_singleton.mp h)
  | (k, w) :: rest, h => by
    rw [insertInOrder] at h
    split at h
    · exact (List.mem_cons.mp h).imp id (List.mem_cons_of_mem _)
    · split at h
      · exact List.mem_cons.mp h
      · rcases List.mem_cons.mp h with rfl | h
        · exact .inr List.mem_cons_self
        · exact (mem_of_mem_insertInOrder h).imp id (List.mem_cons_of_mem _)

theorem mem_keys_insertInOrder {key k : String} {v : α} {entries : List (String × α)}
    (h : k ∈ (insertInOrder key v entries).map Prod.fst) : k = key ∨ k ∈ entries.map Prod.fst := by
  obtain ⟨e, he, rfl⟩ := List.mem_map.mp h
  exact (mem_of_mem_insertInOrder he).imp (congrArg Prod.fst) List.mem_map_of_mem

theorem mem_of_mem_foldl_insertInOrder {e : String × α} : ∀ {entries done : List (String × α)},
    e ∈ entries.foldl (fun done (key, v) => insertInOrder key v done) done → e ∈ entries ∨ e ∈ done
  | [], _, h => .inr h
  | (key, v) :: rest, done, h => by
    rw [List.foldl_cons] at h
    rcases mem_of_mem_foldl_insertInOrder h with h | h
    · exact .inl (List.mem_cons_of_mem _ h)
    · rcases mem_of_mem_insertInOrder h with rfl | h
      · exact .inl List.mem_cons_self
      · exact .inr h

/-- Entries in order are among those that were put in order. -/
theorem mem_of_mem_inOrder {entries : List (String × α)} {e : String × α} (h : e ∈ inOrder entries) :
    e ∈ entries :=
  (mem_of_mem_foldl_insertInOrder h).resolve_right List.not_mem_nil

theorem pairwise_insertInOrder {key : String} {v : α} : ∀ {entries : List (String × α)},
    (entries.map Prod.fst).Pairwise (· < ·) →
    ((insertInOrder key v entries).map Prod.fst).Pairwise (· < ·)
  | [], _ => List.pairwise_singleton _ _
  | (key', w) :: rest, h => by
    rw [List.map_cons, List.pairwise_cons] at h
    obtain ⟨hfirst, hrest⟩ := h
    rw [insertInOrder]
    split
    · next heq =>
      rw [List.map_cons, List.pairwise_cons, heq]
      exact ⟨hfirst, hrest⟩
    · next hne =>
      split
      · next hlt =>
        rw [List.map_cons, List.pairwise_cons, List.map_cons, List.pairwise_cons]
        refine ⟨fun k hk => ?_, hfirst, hrest⟩
        rcases List.mem_cons.mp hk with rfl | hk
        · exact hlt
        · exact lt_trans hlt (hfirst k hk)
      · next hnot =>
        rw [List.map_cons, List.pairwise_cons]
        refine ⟨fun k hk => ?_, pairwise_insertInOrder hrest⟩
        rcases mem_keys_insertInOrder hk with rfl | hk
        · exact lt_of_le_of_ne (not_lt.mp hnot) (Ne.symm hne)
        · exact hfirst k hk

theorem pairwise_foldl_insertInOrder : ∀ (entries : List (String × α)) {done : List (String × α)},
    (done.map Prod.fst).Pairwise (· < ·) →
    ((entries.foldl (fun done (key, v) => insertInOrder key v done) done).map
      Prod.fst).Pairwise (· < ·)
  | [], _, h => h
  | (_, _) :: rest, _, h => pairwise_foldl_insertInOrder rest (pairwise_insertInOrder h)

theorem pairwise_inOrder (entries : List (String × α)) :
    ((inOrder entries).map Prod.fst).Pairwise (· < ·) :=
  pairwise_foldl_insertInOrder entries .nil

theorem nodup_inOrder (entries : List (String × α)) :
    ((inOrder entries).map Prod.fst).Nodup :=
  (pairwise_inOrder entries).imp ne_of_lt

/-- An entry whose key comes after all others is put behind them. -/
theorem insertInOrder_of_lt {key : String} {v : α} : ∀ {entries : List (String × α)},
    (∀ e ∈ entries, e.1 < key) → insertInOrder key v entries = entries ++ [(key, v)]
  | [], _ => rfl
  | (k, w) :: rest, h => by
    have hlt : k < key := h (k, w) List.mem_cons_self
    rw [insertInOrder, if_neg hlt.ne', if_neg hlt.not_gt,
      insertInOrder_of_lt fun e he => h e (List.mem_cons_of_mem _ he), List.cons_append]

theorem foldl_insertInOrder_of_pairwise : ∀ {entries done : List (String × α)},
    ((done ++ entries).map Prod.fst).Pairwise (· < ·) →
    entries.foldl (fun done (key, v) => insertInOrder key v done) done = done ++ entries
  | [], done, _ => (List.append_nil done).symm
  | (key, v) :: rest, done, h => by
    have hlt : ∀ e ∈ done, e.1 < key := by
      rw [List.map_append, List.pairwise_append] at h
      exact fun e he => h.2.2 e.1 (List.mem_map_of_mem he) key List.mem_cons_self
    have hshift : done ++ (key, v) :: rest = done ++ [(key, v)] ++ rest := by simp
    rw [hshift] at h ⊢
    rw [List.foldl_cons, ← foldl_insertInOrder_of_pairwise h, ← insertInOrder_of_lt hlt]

/-- Entries that are in order stay as they are. -/
theorem inOrder_of_pairwise {entries : List (String × α)}
    (h : (entries.map Prod.fst).Pairwise (· < ·)) : inOrder entries = entries :=
  foldl_insertInOrder_of_pairwise h

theorem lookup_foldl_insertInOrder (k : String) : ∀ {entries done : List (String × α)},
    (entries.map Prod.fst).Nodup →
    (entries.foldl (fun done (key, v) => insertInOrder key v done) done).lookup k =
      (entries.lookup k).or (done.lookup k)
  | [], _, _ => rfl
  | (key, v) :: rest, done, h => by
    rw [List.map_cons, List.nodup_cons] at h
    rw [List.foldl_cons, lookup_foldl_insertInOrder k h.2, lookup_insertInOrder]
    by_cases hk : k = key
    · subst hk
      rw [if_pos rfl, lookup_eq_none_of_not_mem h.1, Option.none_or, List.lookup_cons_self, Option.some_or]
    · have hne : (k == key) = false := by simpa using hk
      rw [if_neg hk, List.lookup_cons, hne]

/-- Where every key stands once, it has the same value in order. -/
theorem lookup_inOrder {entries : List (String × α)} (h : (entries.map Prod.fst).Nodup)
    (k : String) : (inOrder entries).lookup k = entries.lookup k := by
  rw [inOrder, lookup_foldl_insertInOrder k h, List.lookup_nil, Option.or_none]

end AccessBroker.Store
