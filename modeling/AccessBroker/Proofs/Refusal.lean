/-
What a computation fails with.

Of steps one after another the first that fails is the one that counts
(`refusal?_bind`), and so it is when one step is taken for each entry of a list
(`refusal?_mapM`).
-/

namespace AccessBroker

variable {ε α β : Type}

/-- What a computation fails with, if it fails. -/
def refusal? : Except ε α → Option ε
  | .ok _ => none
  | .error e => some e

theorem refusal?_eq_some_iff {x : Except ε α} {e : ε} : refusal? x = some e ↔ x = .error e := by
  cases x <;> simp [refusal?]

theorem refusal?_eq_none_iff {x : Except ε α} : refusal? x = none ↔ ∃ a, x = .ok a := by
  cases x <;> simp [refusal?]

/-- What fails in one way, and on one condition. -/
theorem refusal?_eq_ite {x : Except ε α} {p : Prop} [Decidable p] {e : ε}
    (h : ∀ f, x = .error f ↔ p ∧ f = e) : refusal? x = if p then some e else none := by
  cases x with
  | ok a =>
    have hnot : ¬p := fun hp => nomatch (h e).mpr ⟨hp, rfl⟩
    rw [if_neg hnot, refusal?]
  | error f =>
    obtain ⟨hp, rfl⟩ := (h f).mp rfl
    rw [if_pos hp, refusal?]

/-- A later step counts only behind one that ends well. -/
theorem refusal?_bind {x : Except ε α} {f : α → Except ε β} {later : Option ε}
    (h : ∀ a, x = .ok a → refusal? (f a) = later) : refusal? (x >>= f) = (refusal? x).or later := by
  cases x with
  | error e => rfl
  | ok a => exact h a rfl

theorem refusal?_map (f : α → β) (x : Except ε α) : refusal? (x.map f) = refusal? x := by
  cases x <;> rfl

/-- The first entry that fails is the one that counts. -/
theorem refusal?_mapM (f : α → Except ε β) : ∀ xs : List α,
    refusal? (xs.mapM f) = xs.findSome? fun x => refusal? (f x)
  | [] => rfl
  | x :: xs => by
    have hrest : ∀ b, f x = .ok b → refusal? (xs.mapM f >>= fun bs => pure (b :: bs)) =
        xs.findSome? fun x => refusal? (f x) := by
      intro b _
      have hpure : ∀ bs, xs.mapM f = .ok bs →
          refusal? (pure (b :: bs) : Except ε (List β)) = none := fun _ _ => rfl
      rw [refusal?_bind hpure, refusal?_mapM f xs, Option.or_none]
    rw [List.mapM_cons, refusal?_bind hrest, List.findSome?_cons]
    cases refusal? (f x) <;> rfl

end AccessBroker
