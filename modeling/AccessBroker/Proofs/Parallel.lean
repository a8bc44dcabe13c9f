/-
Two computations side by side.

Two computations that may fail are parallel when both come to related ends, both fail in the
same way, or a fault is of a kind that its side was expected to have (`Parallel`). Steps that are
parallel one by one are so together (`Parallel.bind`).
-/

namespace AccessBroker

variable {ε ζ α β γ δ : Type} {E : ε → ε → Prop} {P Q P' Q' : ε → Prop}

/-- Two computations come to related ends or fail in the same way, apart from faults that are
expected. -/
def Parallel (E : ε → ε → Prop) (P Q : ε → Prop) (S : α → β → Prop) :
    Except ε α → Except ε β → Prop
  | .ok s, .ok t => S s t
  | .error f, .error g => E f g ∨ P f ∨ Q g
  | .error f, .ok _ => P f
  | .ok _, .error g => Q g

namespace Parallel

variable {S S' : α → β → Prop} {T : γ → δ → Prop} {x : Except ε α} {y : Except ε β}

theorem refl {S : α → α → Prop} (hE : ∀ f, E f f) (hS : ∀ s, S s s) (x : Except ε α) :
    Parallel E P Q S x x := by
  cases x with
  | error f => exact .inl (hE f)
  | ok s => exact hS s

theorem bind {f : α → Except ε γ} {g : β → Except ε δ} (h : Parallel E P Q S x y)
    (hnext : ∀ s t, S s t → Parallel E P Q T (f s) (g t)) :
    Parallel E P Q T (x >>= f) (y >>= g) := by
  cases x with
  | error e =>
    cases y with
    | error e' => exact h
    | ok t =>
      change Parallel E P Q T (.error e) (g t)
      cases g t with
      | error e' => exact .inr (.inl h)
      | ok _ => exact h
  | ok s =>
    cases y with
    | error e' =>
      change Parallel E P Q T (f s) (.error e')
      cases f s with
      | error e => exact .inr (.inr h)
      | ok _ => exact h
    | ok t => exact hnext s t h

theorem map {f : α → γ} {g : β → δ} (h : Parallel E P Q S x y)
    (hnext : ∀ s t, S s t → T (f s) (g t)) : Parallel E P Q T (x.map f) (y.map g) := by
  cases x <;> cases y <;> first | exact h | exact hnext _ _ h

theorem mono (h : Parallel E P Q S x y) (hP : ∀ f, P f → P' f) (hQ : ∀ f, Q f → Q' f) :
    Parallel E P' Q' S x y := by
  cases x <;> cases y
  · exact h.imp id (Or.imp (hP _) (hQ _))
  · exact hP _ h
  · exact hQ _ h
  · exact h

/-- The faults may be told in other words, on each side in its own. -/
theorem mapError {E' : ζ → ζ → Prop} {P' Q' : ζ → Prop} {f g : ε → ζ} (h : Parallel E P Q S x y)
    (hE : ∀ e e', x = .error e → y = .error e' → E e e' → E' (f e) (g e'))
    (hP : ∀ e, x = .error e → P e → P' (f e)) (hQ : ∀ e, y = .error e → Q e → Q' (g e)) :
    Parallel E' P' Q' S (x.mapError f) (y.mapError g) := by
  cases x with
  | error e =>
    cases y with
    | error e' => exact h.imp (hE e e' rfl rfl) (Or.imp (hP e rfl) (hQ e' rfl))
    | ok t => exact hP e rfl h
  | ok s =>
    cases y with
    | error e' => exact hQ e' rfl h
    | ok t => exact h

end Parallel

end AccessBroker
