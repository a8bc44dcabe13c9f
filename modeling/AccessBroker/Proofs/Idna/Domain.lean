/-
Host names that are in ASCII already.

The name that is made holds no character that a host name may not hold
(`not_isRefused_of_toAscii?`). A name in small letters without a part that is
written in letters, digits and hyphens is mapped to itself (`toAscii?_plain`).
-/
import AccessBroker.Idna.Domain
import AccessBroker.Proofs.Text.Split

namespace AccessBroker.Idna

/-- A name in ASCII without capital letters, no part of which is signed. -/
structure IsPlainName (cs : List Char) : Prop where
  small : ∀ c ∈ cs, c.toNat < 0x80 ∧ Text.asciiLower c = c
  unsigned : ∀ part ∈ Text.splitAll '.' cs, signed? part = none

theorem mapChars?_small : ∀ {cs : List Char},
    (∀ c ∈ cs, c.toNat < 0x80 ∧ Text.asciiLower c = c) → mapChars? cs = some cs
  | [], _ => rfl
  | c :: cs, h => by
    obtain ⟨hascii, hlower⟩ := h c List.mem_cons_self
    have ih := mapChars?_small fun d hd => h d (List.mem_cons_of_mem c hd)
    rw [mapChars?, if_pos hascii, ih, hlower, Option.map_some]

theorem normalize?_small {cs : List Char} (h : ∀ c ∈ cs, c.toNat < 0x80 ∧ Text.asciiLower c = c) :
    normalize? cs = some cs := by
  have hlow : cs.all (fun c => c.toNat < 0x300) = true := by
    rw [List.all_eq_true]
    intro c hc
    have hascii := (h c hc).1
    exact decide_eq_true (by omega)
  rw [normalize?, mapChars?_small h, Option.map_some, Composition.normal, if_pos hlow]

theorem plain?_unsigned {part : List Char} (hsign : signed? part = none)
    (h : part.all (fun c => c.toNat < 0x80) = true) : plain? part = some part := by
  rw [plain?, hsign]
  exact if_pos (.inl h)

/-- What is written piece by piece is read piece by piece. -/
theorem mapM_map_eq_some {α β : Type} {f : α → Option β} {g : β → α} : ∀ {ys : List β},
    (∀ y ∈ ys, f (g y) = some y) → (ys.map g).mapM f = some ys
  | [], _ => rfl
  | y :: ys, h => by
    have ih := mapM_map_eq_some fun z hz => h z (List.mem_cons_of_mem y hz)
    rw [List.map_cons, List.mapM_cons, h y List.mem_cons_self, ih]
    rfl

theorem signed?_of_head {part : List Char} (h : part.head? ≠ some 'x') : signed? part = none := by
  cases part with
  | nil => rfl
  | cons c cs => exact if_neg fun hc => h (congrArg some hc.symm)

/-- What a name in ASCII holds. -/
theorem not_isRefused_of_toAscii? {cs name : List Char} (h : toAscii? cs = some name) :
    ∀ c ∈ name, isRefused c = false := by
  rw [toAscii?] at h
  split at h
  · cases h
  · split at h
    · cases h
    · dsimp only at h
      split at h
      · next hfit =>
        cases h
        rw [Bool.and_eq_true, Bool.not_eq_true', List.any_eq_false] at hfit
        intro c hc
        exact Bool.eq_false_iff.mpr (hfit.2 c hc)
      · cases h

/-- **A plain name is in ASCII already.** -/
theorem toAscii?_plain {cs : List Char} (h : IsPlainName cs)
    (hrefused : ∀ c ∈ cs, isRefused c = false) : toAscii? cs = some cs := by
  have hascii : ∀ part ∈ Text.splitAll '.' cs, part.all (fun c => c.toNat < 0x80) = true := by
    intro part hpart
    rw [List.all_eq_true]
    intro c hc
    exact decide_eq_true (h.small c (Text.mem_of_mem_splitAll hpart hc)).1
  have hparts : ((Text.splitAll '.' cs).map id).mapM plain? = some (Text.splitAll '.' cs) :=
    mapM_map_eq_some fun part hpart => plain?_unsigned (h.unsigned part hpart) (hascii part hpart)
  rw [List.map_id] at hparts
  have hmap : (Text.splitAll '.' cs).map asciiPart = Text.splitAll '.' cs := by
    refine Eq.trans (List.map_congr_left fun part hpart => ?_) (List.map_id _)
    rw [asciiPart, if_pos (hascii part hpart), id]
  have hleft : (Text.splitAll '.' cs).any (·.any isRightward) = false := by
    rw [List.any_eq_false]
    intro part hpart
    rw [Bool.not_eq_true, List.any_eq_false]
    intro c hc
    have hlow := (h.small c (Text.mem_of_mem_splitAll hpart hc)).1
    rw [Bool.not_eq_true, isRightward, Bool.and_eq_false_iff]
    exact .inl (decide_eq_false (by omega))
  have hallowed : cs.any isRefused = false := by
    rw [List.any_eq_false]
    intro c hc
    rw [hrefused c hc]
    exact Bool.false_ne_true
  simp only [toAscii?, normalize?_small h.small, hparts, hmap, hleft, Text.intercalate_splitAll,
    hallowed]
  rfl

end AccessBroker.Idna
