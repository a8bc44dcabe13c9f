/-
Two lists of entries, entry by entry.

Entries with the same keys in the same order, and with values that are related
key by key, stay so where a key is set in both (`Entrywise.put`) and where both
are put in order (`Entrywise.inOrder`); look-ups find related values in them
(`Entrywise.lookup`).
-/
import AccessBroker.Store.Ordered
import AccessBroker.Store.Table

namespace AccessBroker.Store

variable {α β : Type} {P : String → α → β → Prop}

/-- The keys are the same, in the same order, and the values are related as their keys ask for. -/
inductive Entrywise (P : String → α → β → Prop) : List (String × α) → List (String × β) → Prop
  | nil : Entrywise P [] []
  | cons {key : String} {a : α} {b : β} {xs : List (String × α)} {ys : List (String × β)}
    (head : P key a b) (tail : Entrywise P xs ys) : Entrywise P ((key, a) :: xs) ((key, b) :: ys)

namespace Entrywise

variable {xs : List (String × α)} {ys : List (String × β)}

theorem refl {P : String → α → α → Prop} (h : ∀ key a, P key a a) :
    ∀ xs : List (String × α), Entrywise P xs xs
  | [] => .nil
  | (key, a) :: xs => .cons (h key a) (refl h xs)

/-- Look-ups find nothing in both, or related values. -/
theorem lookup (hes : Entrywise P xs ys) (k : String) :
    (xs.lookup k = none ∧ ys.lookup k = none) ∨
      ∃ a b, xs.lookup k = some a ∧ ys.lookup k = some b ∧ P k a b := by
  induction hes with
  | nil => exact .inl ⟨rfl, rfl⟩
  | @cons key a b xs ys head tail ih =>
    by_cases hk : k = key
    · subst hk
      exact .inr ⟨a, b, List.lookup_cons_self, List.lookup_cons_self, head⟩
    · have hne : (k == key) = false := by simpa using hk
      rwa [List.lookup_cons, List.lookup_cons, hne]

theorem put {key : String} {a : α} {b : β} (h : P key a b) (hes : Entrywise P xs ys) :
    Entrywise P (Table.put key a xs) (Table.put key b ys) := by
  induction hes with
  | nil => exact .cons h .nil
  | @cons k _ _ _ _ head tail ih =>
    by_cases hk : k = key
    · rw [Table.put, Table.put, if_pos hk, if_pos hk]
      exact .cons h tail
    · rw [Table.put, Table.put, if_neg hk, if_neg hk]
      exact .cons head ih

theorem insertInOrder {key : String} {a : α} {b : β} (h : P key a b) (hes : Entrywise P xs ys) :
    Entrywise P (Store.insertInOrder key a xs) (Store.insertInOrder key b ys) := by
  induction hes with
  | nil => exact .cons h .nil
  | @cons k _ _ _ _ head tail ih =>
    rw [Store.insertInOrder, Store.insertInOrder]
    split
    · exact .cons h tail
    · split
      · exact .cons h (.cons head tail)
      · exact .cons head ih

theorem foldl_insertInOrder (hes : Entrywise P xs ys) : ∀ {dones : List (String × α)}
    {dones' : List (String × β)}, Entrywise P dones dones' →
    Entrywise P (xs.foldl (fun done (key, v) => Store.insertInOrder key v done) dones)
      (ys.foldl (fun done (key, v) => Store.insertInOrder key v done) dones') := by
  induction hes with
  | nil => exact fun h => h
  | cons head _ ih => exact fun h => ih (h.insertInOrder head)

theorem inOrder (hes : Entrywise P xs ys) : Entrywise P (Store.inOrder xs) (Store.inOrder ys) :=
  hes.foldl_insertInOrder .nil

end Entrywise

end AccessBroker.Store
