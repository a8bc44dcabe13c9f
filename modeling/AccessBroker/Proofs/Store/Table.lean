/-
Tables filled from lists of pairs.

A pair more at the end is one more write (`ofPairs_concat`), so what is found
under a key is the value of the last pair with that key (`get?_ofPairs`), and
something is found if there is such a pair. Which of them is the last hangs on
the order of the list; it does not matter where all of them have one value
(`get?_ofPairs_of_agreeOn`), and there only (`forall_perm_iff`). How many keys a
table has never hangs on the order (`size_ofPairs`).
-/
import AccessBroker.Store.Table
import Mathlib.Data.List.Dedup
import Mathlib.Data.List.Induction

namespace AccessBroker.Store

/-- The value of the first entry under a key. -/
def found? {α : Type} (keyOf : String → String) (k : String) (entries : List (String × α)) :
    Option α :=
  (entries.find? fun e => keyOf e.1 = k).map Prod.snd

namespace Table

variable {α β : Type} {keyOf : String → String}

/-! ## Writing -/

theorem get?_insert (t : Table α) (key k : String) (v : α) :
    (t.insert key v).get? k = if k = key then some v else t.get? k := by
  by_cases h : k = key
  · rw [if_pos h, h, get?_insert_self]
  · rw [if_neg h, get?_insert_of_ne t h]

/-- What is found is there. -/
theorem mem_of_lookup {entries : List (String × α)} {key : String} {v : α}
    (h : entries.lookup key = some v) : (key, v) ∈ entries := by
  obtain ⟨before, after, rfl, -⟩ := List.lookup_eq_some_iff.mp h
  exact List.mem_append_right before List.mem_cons_self

theorem mem_of_mem_put {key : String} {v : α} {e : String × α} : ∀ {entries : List (String × α)},
    e ∈ put key v entries → e = (key, v) ∨ e ∈ entries
  | [], h => .inl (List.mem_singleton.mp h)
  | (k, w) :: rest, h => by
    rw [put] at h
    split at h
    · exact (List.mem_cons.mp h).imp id (List.mem_cons_of_mem _)
    · rcases List.mem_cons.mp h with rfl | h
      · exact .inr List.mem_cons_self
      · exact (mem_of_mem_put h).imp id (List.mem_cons_of_mem _)

/-- A search that passes over a key is not changed by a write to it. -/
theorem find?_put {p : String × α → Bool} {key : String} (h : ∀ v, p (key, v) = false) (v : α) :
    ∀ entries : List (String × α), (put key v entries).find? p = entries.find? p
  | [] => by simp [put, h]
  | (k, w) :: rest => by
    by_cases hk : k = key
    · subst hk
      simp [put, h]
    · rw [put, if_neg hk, List.find?_cons, List.find?_cons, find?_put h v rest]

theorem ofPairs_concat (pairs : List (String × α)) (p : String × α) :
    ofPairs keyOf (pairs ++ [p]) = (ofPairs keyOf pairs).insert (keyOf p.1) p.2 := by
  rw [ofPairs, List.foldl_append]
  rfl

/-! ## What is found -/

/-- The last pair with a key is the one that is found. -/
theorem get?_ofPairs (pairs : List (String × α)) (k : String) :
    (ofPairs keyOf pairs).get? k = found? keyOf k pairs.reverse := by
  induction pairs using List.reverseRecOn with
  | nil => rfl
  | append_singleton pairs p ih =>
    rw [ofPairs_concat, get?_insert, ih, List.reverse_append, List.reverse_singleton,
      List.singleton_append, found?, found?, List.find?_cons]
    by_cases hk : keyOf p.1 = k
    · simp [hk]
    · simp [hk, Ne.symm hk]

theorem exists_of_get?_ofPairs {pairs : List (String × α)} {k : String} {v : α}
    (h : (ofPairs keyOf pairs).get? k = some v) : ∃ p ∈ pairs, keyOf p.1 = k ∧ p.2 = v := by
  rw [get?_ofPairs, found?, Option.map_eq_some_iff] at h
  obtain ⟨p, hfind, rfl⟩ := h
  have hp : p ∈ pairs := List.mem_reverse.mp (List.mem_of_find?_eq_some hfind)
  have hkey := List.find?_some hfind
  exact ⟨p, hp, of_decide_eq_true hkey, rfl⟩

theorem exists_get?_ofPairs (keyOf : String → String) {pairs : List (String × α)} {p : String × α}
    (hp : p ∈ pairs) : ∃ v, (ofPairs keyOf pairs).get? (keyOf p.1) = some v := by
  have hsome : (pairs.reverse.find? fun q => keyOf q.1 = keyOf p.1).isSome = true :=
    List.find?_isSome.mpr ⟨p, List.mem_reverse.mpr hp, decide_eq_true rfl⟩
  obtain ⟨q, hfind⟩ := Option.isSome_iff_exists.mp hsome
  exact ⟨q.2, by rw [get?_ofPairs, found?, hfind, Option.map_some]⟩

theorem get?_ofPairs_ne_none_iff {pairs : List (String × α)} {k : String} :
    (ofPairs keyOf pairs).get? k ≠ none ↔ ∃ p ∈ pairs, keyOf p.1 = k := by
  rw [Option.ne_none_iff_exists']
  constructor
  · rintro ⟨v, hv⟩
    obtain ⟨p, hp, hk, -⟩ := exists_of_get?_ofPairs hv
    exact ⟨p, hp, hk⟩
  · rintro ⟨p, hp, rfl⟩
    exact exists_get?_ofPairs keyOf hp

theorem get?_ofPairs_concat (pairs : List (String × α)) (p : String × α) :
    (ofPairs keyOf (pairs ++ [p])).get? (keyOf p.1) = some p.2 := by
  rw [ofPairs_concat, get?_insert_self]

/-! ## The order of the pairs -/

/-- All pairs that have a key have one value. -/
def AgreeOn (keyOf : String → String) (k : String) (pairs : List (String × α)) : Prop :=
  ∀ p ∈ pairs, ∀ q ∈ pairs, keyOf p.1 = k → keyOf q.1 = k → p.2 = q.2

theorem agreeOn_of_nodup {pairs : List (String × α)}
    (h : (pairs.map fun p => keyOf p.1).Nodup) (k : String) : AgreeOn keyOf k pairs := by
  intro p hp q hq hpk hqk
  rw [List.inj_on_of_nodup_map h hp hq (hpk.trans hqk.symm)]

theorem get?_ofPairs_of_agreeOn {pairs : List (String × α)} {k : String}
    (h : AgreeOn keyOf k pairs) {p : String × α} (hp : p ∈ pairs) (hk : keyOf p.1 = k) :
    (ofPairs keyOf pairs).get? k = some p.2 := by
  obtain ⟨v, hv⟩ := exists_get?_ofPairs keyOf hp
  rw [hk] at hv
  obtain ⟨q, hq, hqk, hvalue⟩ := exists_of_get?_ofPairs hv
  rw [hv, ← hvalue, h p hp q hq hk hqk]

theorem get?_ofPairs_perm {l pairs : List (String × α)} (hperm : l.Perm pairs) {k : String}
    (h : AgreeOn keyOf k pairs) : (ofPairs keyOf l).get? k = (ofPairs keyOf pairs).get? k := by
  have hl : AgreeOn keyOf k l := fun p hp q hq =>
    h p (hperm.mem_iff.mp hp) q (hperm.mem_iff.mp hq)
  cases hfound : (ofPairs keyOf pairs).get? k with
  | some v =>
    obtain ⟨p, hp, hk, rfl⟩ := exists_of_get?_ofPairs hfound
    exact get?_ofPairs_of_agreeOn hl (hperm.mem_iff.mpr hp) hk
  | none =>
    cases hother : (ofPairs keyOf l).get? k with
    | none => rfl
    | some v =>
      obtain ⟨p, hp, hk, -⟩ := exists_of_get?_ofPairs hother
      rw [get?_ofPairs_of_agreeOn h (hperm.mem_iff.mp hp) hk] at hfound
      cases hfound

/-- Every pair may come last. -/
theorem exists_perm_get? (keyOf : String → String) {pairs : List (String × α)} {p : String × α}
    (hp : p ∈ pairs) : ∃ l, l.Perm pairs ∧ (ofPairs keyOf l).get? (keyOf p.1) = some p.2 := by
  obtain ⟨before, after, rfl⟩ := List.append_of_mem hp
  refine ⟨before ++ after ++ [p], ?_, get?_ofPairs_concat _ p⟩
  rw [List.append_assoc]
  exact (List.perm_append_singleton p after).append_left before

/-- What is read of a look-up is the same for all orders of the pairs just where the pairs with the
key have one value, as long as different values read differently. -/
theorem forall_perm_iff {read : Option α → β} (hread : ∀ a a', read (some a) = read (some a') → a = a')
    {pairs : List (String × α)} {k : String} :
    (∀ l l', l.Perm pairs → l'.Perm pairs →
      read ((ofPairs keyOf l).get? k) = read ((ofPairs keyOf l').get? k)) ↔
        AgreeOn keyOf k pairs := by
  constructor
  · intro h p hp q hq hpk hqk
    obtain ⟨l, hl, hfound⟩ := exists_perm_get? keyOf hp
    obtain ⟨l', hl', hfound'⟩ := exists_perm_get? keyOf hq
    rw [hpk] at hfound
    rw [hqk] at hfound'
    have hsame := h l l' hl hl'
    rw [hfound, hfound'] at hsame
    exact hread _ _ hsame
  · intro h l l' hl hl'
    rw [get?_ofPairs_perm hl h, get?_ofPairs_perm hl' h]

/-! ## How many keys there are -/

theorem mem_keys_ofPairs {pairs : List (String × α)} {k : String} :
    k ∈ (ofPairs keyOf pairs).entries.map Prod.fst ↔ k ∈ pairs.map fun p => keyOf p.1 := by
  induction pairs using List.reverseRecOn with
  | nil => rfl
  | append_singleton pairs p ih =>
    rw [ofPairs_concat, insert, mem_keys_put, ih, List.map_append, List.mem_append,
      List.map_singleton, List.mem_singleton, or_comm]

/-- A table has as many keys as there are among the pairs. -/
theorem size_ofPairs (pairs : List (String × α)) :
    (ofPairs keyOf pairs).size = (pairs.map fun p => keyOf p.1).dedup.length := by
  have hperm : ((ofPairs keyOf pairs).entries.map Prod.fst).Perm
      (pairs.map fun p => keyOf p.1).dedup := by
    refine (List.perm_ext_iff_of_nodup (ofPairs keyOf pairs).nodup (List.nodup_dedup _)).mpr ?_
    intro k
    rw [mem_keys_ofPairs, List.mem_dedup]
  rw [size, ← hperm.length_eq, List.length_map]

theorem size_ofPairs_perm {l pairs : List (String × α)} (hperm : l.Perm pairs) :
    (ofPairs keyOf l).size = (ofPairs keyOf pairs).size := by
  rw [size_ofPairs, size_ofPairs]
  exact ((hperm.map _).dedup).length_eq

end Table

end AccessBroker.Store
