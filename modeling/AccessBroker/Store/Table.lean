/-
Tables from texts to values, in which the last write to a key wins.

`get?_insert_self` and `get?_insert_of_ne` say what a write does to every
look-up; the keys are kept once each, so `size` counts them.
-/

namespace AccessBroker.Store

/-- A table as a list of entries with distinct keys. -/
structure Table (α : Type) where
  entries : List (String × α)
  nodup : (entries.map Prod.fst).Nodup

namespace Table

variable {α : Type}

/-- The table without entries. -/
def empty : Table α := ⟨[], List.nodup_nil⟩

/-- Entries with the value of a key set, in its place or at the end. -/
def put (key : String) (v : α) : List (String × α) → List (String × α)
  | [] => [(key, v)]
  | (k, w) :: rest => if k = key then (key, v) :: rest else (k, w) :: put key v rest

theorem mem_keys_put {key k : String} {v : α} {entries : List (String × α)} :
    k ∈ (put key v entries).map Prod.fst ↔ k = key ∨ k ∈ entries.map Prod.fst := by
  induction entries with
  | nil => simp [put]
  | cons e rest ih =>
    obtain ⟨k', w⟩ := e
    by_cases h : k' = key
    · simp [put, h]
    · simp only [put, h, if_false, List.map_cons, List.mem_cons, ih]
      constructor
      · rintro (h1 | h1 | h1) <;> simp [h1]
      · rintro (h1 | h1 | h1) <;> simp [h1]

theorem nodup_keys_put {key : String} {v : α} {entries : List (String × α)}
    (h : (entries.map Prod.fst).Nodup) : ((put key v entries).map Prod.fst).Nodup := by
  induction entries with
  | nil => simp [put]
  | cons e rest ih =>
    obtain ⟨k', w⟩ := e
    simp only [List.map_cons, List.nodup_cons] at h
    by_cases hk : k' = key
    · subst hk
      simpa [put] using h
    · simp only [put, hk, if_false, List.map_cons, List.nodup_cons]
      refine ⟨fun hm => ?_, ih h.2⟩
      rcases mem_keys_put.1 hm with h' | h'
      · exact hk h'
      · exact h.1 h'

/-- The table with the value of a key set. -/
def insert (t : Table α) (key : String) (v : α) : Table α :=
  ⟨put key v t.entries, nodup_keys_put t.nodup⟩

/-- The value of a key. -/
def get? (t : Table α) (key : String) : Option α := t.entries.lookup key

/-- How many keys have a value. -/
def size (t : Table α) : Nat := t.entries.length

/-- Whether no key has a value. -/
def isEmpty (t : Table α) : Bool := t.entries.isEmpty

/-- A table filled from pairs in their order, each under the key that `keyOf` makes of its text. -/
def ofPairs (keyOf : String → String) (pairs : List (String × α)) : Table α :=
  pairs.foldl (fun t (k, v) => t.insert (keyOf k) v) empty

theorem lookup_put_self (key : String) (v : α) (entries : List (String × α)) :
    (put key v entries).lookup key = some v := by
  induction entries with
  | nil => simp [put]
  | cons e rest ih =>
    obtain ⟨k', w⟩ := e
    by_cases h : k' = key
    · simp [put, h]
    · have h' : (key == k') = false := by simpa using fun e => h e.symm
      simp [put, h, List.lookup_cons, h', ih]

theorem lookup_put_of_ne {key k : String} (hne : k ≠ key) (v : α) (entries : List (String × α)) :
    (put key v entries).lookup k = entries.lookup k := by
  induction entries with
  | nil =>
    have h' : (k == key) = false := by simpa using hne
    simp [put, List.lookup_cons, h']
  | cons e rest ih =>
    obtain ⟨k', w⟩ := e
    by_cases h : k' = key
    · subst h
      have h' : (k == k') = false := by simpa using hne
      simp [put, List.lookup_cons, h']
    · simp only [put, h, if_false, List.lookup_cons, ih]

@[simp] theorem get?_insert_self (t : Table α) (key : String) (v : α) :
    (t.insert key v).get? key = some v := lookup_put_self key v t.entries

theorem get?_insert_of_ne (t : Table α) {key k : String} (h : k ≠ key) (v : α) :
    (t.insert key v).get? k = t.get? k := lookup_put_of_ne h v t.entries

@[simp] theorem get?_empty (k : String) : (empty : Table α).get? k = none := rfl

end Table

end AccessBroker.Store
