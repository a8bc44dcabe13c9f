/-
Lists cut at a separator.

What stands before the first separator holds none (`splitFirst?_eq_some_iff`),
and the parts of a list that was put together with separators between are its
parts again (`splitAll_intercalate`); put together, the parts of any list are the
list (`intercalate_splitAll`). A map that keeps entries apart changes nothing of
it (`splitAll_map`).
-/
import AccessBroker.Text.Number

namespace AccessBroker.Text

/-! ## Characters -/

/-- Letters and digits are plain ASCII. -/
theorem lt_of_isAlphanum {c : Char} (h : c.isAlphanum = true) : c.toNat < 0x80 := by
  change ((decide (c.val ≥ 'A'.val ∧ c.val ≤ 'Z'.val) || c.val ≥ 'a'.val && c.val ≤ 'z'.val) ||
    c.val ≥ '0'.val && c.val ≤ '9'.val) = true at h
  simp only [Bool.or_eq_true, Bool.and_eq_true, decide_eq_true_eq, UInt32.le_iff_toNat_le,
    ge_iff_le] at h
  have hc : c.toNat = c.val.toNat := rfl
  have hZ : 'Z'.val.toNat = 90 := rfl
  have hz : 'z'.val.toNat = 122 := rfl
  have h9 : '9'.val.toNat = 57 := rfl
  omega

/-! ## Lists of characters -/

/-- What is checked of the characters in a list one by one. The characters are finitely many, so
that `decide` by itself may go through them all. -/
theorem forall_mem_of_all {cs : List Char} {P : Char → Prop} [DecidablePred P]
    (h : cs.all (fun c => decide (P c)) = true) : ∀ c ∈ cs, P c := fun c hc =>
  of_decide_eq_true (List.all_eq_true.mp h c hc)

/-- What is taken from a list up to where it has to stop. -/
theorem takeWhile_append_stop {α : Type} {p : α → Bool} {xs : List α} {z : α} (hxs : ∀ x ∈ xs, p x = true)
    (hz : p z = false) (ys : List α) : (xs ++ z :: ys).takeWhile p = xs := by
  rw [List.takeWhile_append_of_pos hxs, List.takeWhile_cons_of_neg (Bool.eq_false_iff.mp hz),
    List.append_nil]

/-! ## Separators -/

variable {α : Type} [DecidableEq α] {sep : α}

theorem splitFirst?_append : ∀ {left : List α} (right : List α), sep ∉ left →
    splitFirst? sep (left ++ sep :: right) = some (left, right)
  | [], right, _ => by rw [List.nil_append, splitFirst?, if_pos rfl]
  | c :: left, right, h => by
    rw [List.mem_cons, not_or] at h
    rw [List.cons_append, splitFirst?, if_neg (Ne.symm h.1), splitFirst?_append right h.2,
      Option.map_some]

/-- A list is cut where the separator stands first. -/
theorem splitFirst?_eq_some_iff : ∀ {xs left right : List α},
    splitFirst? sep xs = some (left, right) ↔ xs = left ++ sep :: right ∧ sep ∉ left := by
  intro xs left right
  constructor
  · intro h
    induction xs generalizing left with
    | nil => cases h
    | cons c xs ih =>
      rw [splitFirst?] at h
      split at h
      · next hc =>
        cases h
        exact ⟨by rw [hc, List.nil_append], List.not_mem_nil⟩
      · next hc =>
        obtain ⟨⟨before, after⟩, hsplit, heq⟩ := Option.map_eq_some_iff.mp h
        cases heq
        obtain ⟨rfl, hnot⟩ := ih hsplit
        refine ⟨rfl, ?_⟩
        rw [List.mem_cons, not_or]
        exact ⟨Ne.symm hc, hnot⟩
  · rintro ⟨rfl, hnot⟩
    exact splitFirst?_append right hnot

theorem splitAll_of_not_mem : ∀ {xs : List α}, sep ∉ xs → splitAll sep xs = [xs]
  | [], _ => rfl
  | c :: xs, h => by
    rw [List.mem_cons, not_or] at h
    rw [splitAll, if_neg (Ne.symm h.1), splitAll_of_not_mem h.2]

/-- What stands before a separator is one part. -/
theorem splitAll_append : ∀ {left : List α} (right : List α), sep ∉ left →
    splitAll sep (left ++ sep :: right) = left :: splitAll sep right
  | [], right, _ => by rw [List.nil_append, splitAll, if_pos rfl]
  | c :: left, right, h => by
    rw [List.mem_cons, not_or] at h
    rw [List.cons_append, splitAll, if_neg (Ne.symm h.1), splitAll_append right h.2]

/-- Parts that hold no separator are found again when they are put together with separators. -/
theorem splitAll_intercalate : ∀ {parts : List (List α)}, parts ≠ [] →
    (∀ part ∈ parts, sep ∉ part) → splitAll sep (List.intercalate [sep] parts) = parts
  | [], hne, _ => absurd rfl hne
  | [part], _, h => by
    rw [List.intercalate_singleton, splitAll_of_not_mem (h part List.mem_cons_self)]
  | part :: next :: parts, _, h => by
    have ih := splitAll_intercalate (List.cons_ne_nil next parts) fun p hp =>
      h p (List.mem_cons_of_mem part hp)
    rw [List.intercalate_cons_cons, List.append_assoc, List.singleton_append,
      splitAll_append _ (h part List.mem_cons_self), ih]

theorem splitAll_ne_nil : ∀ xs : List α, splitAll sep xs ≠ []
  | [] => List.cons_ne_nil _ _
  | c :: xs => by
    rw [splitAll]
    split
    · exact List.cons_ne_nil _ _
    · split
      · exact List.cons_ne_nil _ _
      · exact List.cons_ne_nil _ _

/-- The parts of a list make it up again. -/
theorem intercalate_splitAll : ∀ xs : List α, List.intercalate [sep] (splitAll sep xs) = xs
  | [] => rfl
  | c :: xs => by
    have ih := intercalate_splitAll xs
    rw [splitAll]
    split
    · next hc =>
      cases hparts : splitAll sep xs with
      | nil => exact absurd hparts (splitAll_ne_nil xs)
      | cons part parts =>
        rw [hparts] at ih
        rw [List.intercalate_cons_cons, ih, hc]
        rfl
    · cases hparts : splitAll sep xs with
      | nil => exact absurd hparts (splitAll_ne_nil xs)
      | cons part parts =>
        rw [hparts] at ih
        cases parts with
        | nil =>
          rw [List.intercalate_singleton] at ih ⊢
          rw [ih]
        | cons next parts =>
          rw [List.intercalate_cons_cons] at ih ⊢
          rw [← ih]
          rfl

theorem mem_of_mem_intercalate {γ : Type} {x sep : γ} : ∀ {parts : List (List γ)},
    x ∈ List.intercalate [sep] parts → x = sep ∨ ∃ part ∈ parts, x ∈ part
  | [], h => absurd h (by simp)
  | [part], h => .inr ⟨part, List.mem_cons_self, by rwa [List.intercalate_singleton] at h⟩
  | part :: next :: parts, h => by
    rw [List.intercalate_cons_cons, List.append_assoc, List.mem_append] at h
    rcases h with h | h
    · exact .inr ⟨part, List.mem_cons_self, h⟩
    rcases List.mem_cons.mp h with h | h
    · exact .inl h
    rcases mem_of_mem_intercalate h with h | ⟨p, hp, h⟩
    · exact .inl h
    · exact .inr ⟨p, List.mem_cons_of_mem part hp, h⟩

theorem mem_of_mem_splitAll {x : α} : ∀ {xs part : List α}, part ∈ splitAll sep xs → x ∈ part →
    x ∈ xs
  | [], part, hpart, hx => by
    rw [List.mem_singleton.mp hpart] at hx
    exact hx
  | c :: xs, part, hpart, hx => by
    rw [splitAll] at hpart
    split at hpart
    · rcases List.mem_cons.mp hpart with rfl | hpart
      · cases hx
      · exact List.mem_cons_of_mem c (mem_of_mem_splitAll hpart hx)
    · cases hparts : splitAll sep xs with
      | nil => exact absurd hparts (splitAll_ne_nil xs)
      | cons first parts =>
        have ih : ∀ part ∈ splitAll sep xs, x ∈ part → x ∈ xs :=
          fun _ hpart => mem_of_mem_splitAll hpart
        rw [hparts] at hpart ih
        rcases List.mem_cons.mp hpart with rfl | hpart
        · rcases List.mem_cons.mp hx with rfl | hx
          · exact List.mem_cons_self
          · exact List.mem_cons_of_mem c (ih first List.mem_cons_self hx)
        · exact List.mem_cons_of_mem c (ih part (List.mem_cons_of_mem first hpart) hx)

/-! ## Separators told apart -/

variable {β : Type} [DecidableEq β] {f : α → β}

/-- Where the first separator stands is seen from any image that keeps entries apart. -/
theorem splitFirst?_map (hf : Function.Injective f) : ∀ xs : List α,
    splitFirst? (f sep) (xs.map f) =
      (splitFirst? sep xs).map fun parts => (parts.1.map f, parts.2.map f)
  | [] => rfl
  | c :: xs => by
    rw [List.map_cons, splitFirst?, splitFirst?]
    by_cases hc : c = sep
    · rw [if_pos hc, if_pos (congrArg f hc)]
      rfl
    · rw [if_neg hc, if_neg fun heq => hc (hf heq), splitFirst?_map hf xs, Option.map_map,
        Option.map_map]
      rfl

theorem splitAll_map (hf : Function.Injective f) : ∀ xs : List α,
    splitAll (f sep) (xs.map f) = (splitAll sep xs).map (List.map f)
  | [] => rfl
  | c :: xs => by
    have ih := splitAll_map hf xs
    rw [List.map_cons, splitAll, splitAll]
    by_cases hc : c = sep
    · rw [if_pos hc, if_pos (congrArg f hc), ih]
      rfl
    · rw [if_neg hc, if_neg fun heq => hc (hf heq), ih]
      cases splitAll sep xs with
      | nil => rfl
      | cons part parts => rfl

end AccessBroker.Text
