/-
The grammar of addresses of version 6.

A group is one to four hexadecimal digits (`IsGroup`). Eight groups with colons between are an
address, and so are at most seven with a double colon for those that are missing, which are zero;
an address of version 4 may stand for the last two (`IsLiteral`). That is what is read
(`ofChars?_eq_some_iff`), and what is written (`isLiteral_chars`).
-/
import AccessBroker.Proofs.Address.Dotted
import AccessBroker.Proofs.Address.V6

namespace AccessBroker

/-! ## Characters of a dotted address -/

/-- Only digits and dots stand in an address of version 4. -/
theorem AddressV4.IsDotted.not_mem {cs : List Char} {a : AddressV4} (h : IsDotted cs a) {c : Char}
    (hdot : c ≠ '.') (hdigit : ∀ d < 10, c ≠ Nat.digitChar d) : c ∉ cs := by
  obtain ⟨parts, hparts, rfl⟩ := h
  intro hc
  rcases Text.mem_of_mem_intercalate hc with heq | ⟨part, hpart, hc⟩
  · exact hdot heq
  · obtain ⟨i, hi, rfl⟩ := List.mem_iff_getElem.mp hpart
    have hoctet := hparts.get hi (hparts.length_eq ▸ hi)
    exact hoctet.numeral.not_mem hdigit hc

theorem AddressV4.IsDotted.dot_mem {cs : List Char} {a : AddressV4} (h : IsDotted cs a) :
    '.' ∈ cs := by
  by_contra hdot
  rw [← ofChars?_eq_some_iff, ofChars?, Text.splitAll_of_not_mem hdot] at h
  cases h

namespace AddressV6

open AddressV4 (IsDotted)

/-! ## Groups -/

/-- One to four hexadecimal digits of either case, and the number that they spell. -/
def IsGroup (cs : List Char) (g : Nat) : Prop :=
  ∃ ds : List Nat, ds ≠ [] ∧ ds.length ≤ 4 ∧ (∀ d ∈ ds, d < 16) ∧
    cs.map Text.asciiLower = ds.map Nat.digitChar ∧ ds.foldl (fun v d => 16 * v + d) 0 = g

theorem group?_eq_some_iff {cs : List Char} {g : Nat} : group? cs = some g ↔ IsGroup cs g := by
  rw [group?]
  constructor
  · intro h
    split at h
    · cases h
    next hlength =>
    obtain ⟨ds, hds, hmap, hsum⟩ := foldl_hexDigit?_eq_some_iff.mp h
    have hsame : cs.length = ds.length := by simpa using congrArg List.length hmap
    refine ⟨ds, ?_, by omega, hds, hmap, hsum⟩
    rintro rfl
    exact hlength (.inl hsame)
  · rintro ⟨ds, hne, hlength, hds, hmap, hsum⟩
    have hsame : cs.length = ds.length := by simpa using congrArg List.length hmap
    have hpos := List.length_pos_iff.mpr hne
    rw [if_neg (by omega)]
    exact foldl_hexDigit?_eq_some_iff.mpr ⟨ds, hds, hmap, hsum⟩

theorem IsGroup.ne_nil {cs : List Char} {g : Nat} (h : IsGroup cs g) : cs ≠ [] := by
  obtain ⟨ds, hne, -, -, hmap, -⟩ := h
  rintro rfl
  exact hne (List.map_eq_nil_iff.mp hmap.symm)

/-- Only hexadecimal digits stand in a group. -/
theorem IsGroup.not_mem {cs : List Char} {g : Nat} (h : IsGroup cs g) {c : Char}
    (hc : ∀ d < 16, Text.asciiLower c ≠ Nat.digitChar d) : c ∉ cs := by
  obtain ⟨ds, -, -, hds, hmap, -⟩ := h
  intro hmem
  have hlower : Text.asciiLower c ∈ ds.map Nat.digitChar := hmap ▸ List.mem_map_of_mem hmem
  obtain ⟨d, hd, heq⟩ := List.mem_map.mp hlower
  exact hc d (hds d hd) heq.symm

/-! ## Rows of groups -/

/-- Parts, and the groups that they spell; where `closing` is set, an address of version 4 may
stand as the last part, for two groups. -/
inductive Spell (closing : Bool) : List (List Char) → List Nat → Prop
  | nil : Spell closing [] []
  | group {part : List Char} {g : Nat} {parts : List (List Char)} {gs : List Nat}
    (head : IsGroup part g) (tail : Spell closing parts gs) :
    Spell closing (part :: parts) (g :: gs)
  | dotted {part : List Char} {a : AddressV4} (hclosing : closing = true) (last : IsDotted part a) :
    Spell closing [part] [a.bits.toNat / 65536, a.bits.toNat % 65536]

variable {closing : Bool} {parts : List (List Char)} {gs : List Nat}

theorem Spell.cases_cons {part : List Char} (h : Spell closing (part :: parts) gs) :
    (∃ g rest, gs = g :: rest ∧ IsGroup part g ∧ Spell closing parts rest) ∨
      (parts = [] ∧ closing = true ∧ ∃ a, IsDotted part a ∧
        gs = [a.bits.toNat / 65536, a.bits.toNat % 65536]) := by
  cases h with
  | group head tail => exact .inl ⟨_, _, rfl, head, tail⟩
  | dotted hclosing last => exact .inr ⟨rfl, hclosing, _, last, rfl⟩

/-- No dotted address is a group. -/
theorem group?_eq_none {part : List Char} {a : AddressV4} (h : IsDotted part a) :
    group? part = none := by
  cases hg : group? part with
  | none => rfl
  | some g => exact absurd h.dot_mem ((group?_eq_some_iff.mp hg).not_mem (by decide))

theorem groupsOf?_eq_some_iff : ∀ {parts : List (List Char)} {gs : List Nat},
    groupsOf? closing parts = some gs ↔ Spell closing parts gs
  | [], gs => by
    rw [groupsOf?, Option.some.injEq]
    constructor
    · rintro rfl
      exact .nil
    · rintro ⟨⟩
      rfl
  | [part], gs => by
    rw [groupsOf?]
    constructor
    · intro h
      split at h
      · next g hg =>
        obtain rfl := Option.some.inj h
        exact .group (group?_eq_some_iff.mp hg) .nil
      · split at h
        · next hclosing =>
          obtain ⟨a, ha, rfl⟩ := Option.map_eq_some_iff.mp h
          exact .dotted hclosing (AddressV4.ofChars?_eq_some_iff.mp ha)
        · cases h
    · intro h
      rcases h.cases_cons with ⟨g, rest, rfl, hg, htail⟩ | ⟨-, hclosing, a, ha, rfl⟩
      · cases htail
        rw [group?_eq_some_iff.mpr hg]
      · rw [group?_eq_none ha, if_pos hclosing, AddressV4.ofChars?_eq_some_iff.mpr ha]
        rfl
  | part :: next :: parts, gs => by
    have ih : ∀ {gs}, groupsOf? closing (next :: parts) = some gs ↔
        Spell closing (next :: parts) gs := groupsOf?_eq_some_iff
    rw [groupsOf?]
    · simp only [Option.bind_eq_bind, Option.bind_eq_some_iff, group?_eq_some_iff, ih,
        Option.some.injEq]
      constructor
      · rintro ⟨g, hg, rest, hrest, rfl⟩
        exact .group hg hrest
      · intro h
        rcases h.cases_cons with ⟨g, rest, rfl, hg, hrest⟩ | ⟨hnil, -⟩
        · exact ⟨g, hg, rest, hrest, rfl⟩
        · cases hnil
    · simp

/-- Nothing but digits, and dots in the last part, stand in a row. -/
theorem Spell.not_mem (h : Spell closing parts gs) {c : Char} (hdot : c ≠ '.')
    (hdigit : ∀ d < 16, Text.asciiLower c ≠ Nat.digitChar d) : ∀ part ∈ parts, c ∉ part := by
  have hdecimal : ∀ d < 10, c ≠ Nat.digitChar d := by
    rintro d hd rfl
    have hsmall : d < 16 := by omega
    exact hdigit d hsmall (Text.asciiLower_digitChar d hsmall)
  induction h with
  | nil => exact List.forall_mem_nil _
  | group head _ ih => exact List.forall_mem_cons.mpr ⟨head.not_mem hdigit, ih⟩
  | dotted _ last =>
    exact List.forall_mem_cons.mpr ⟨last.not_mem hdot hdecimal, List.forall_mem_nil _⟩

theorem Spell.arePlain (h : Spell closing parts gs) : ArePlain parts := by
  have hcolon := h.not_mem (c := ':') (by decide) (by decide)
  refine fun part hpart => ⟨?_, hcolon part hpart⟩
  clear hcolon
  induction h with
  | nil => cases hpart
  | group head _ ih =>
    rcases List.mem_cons.mp hpart with rfl | hpart
    · exact head.ne_nil
    · exact ih hpart
  | dotted _ last =>
    rw [List.mem_singleton.mp hpart]
    exact List.ne_nil_of_mem last.dot_mem

/-! ## Addresses -/

/-- Eight groups with colons between, or at most seven with a double colon among them, at the front
or at the end for the others, which are zero; the last two may be spelled by an address of
version 4. -/
def IsLiteral (cs : List Char) (a : AddressV6) : Prop :=
  (∃ parts gs, cs = List.intercalate [':'] parts ∧ Spell true parts gs ∧ gs.length = 8 ∧
    a = ofGroups gs) ∨
  ∃ front back gs hs, cs = List.intercalate [':'] front ++ ':' :: ':' :: List.intercalate [':'] back ∧
    Spell false front gs ∧ Spell true back hs ∧ gs.length + hs.length ≤ 7 ∧
    a = ofGroups (gs ++ List.replicate (8 - gs.length - hs.length) 0 ++ hs)

theorem splitDouble?_eq_some {cs before after : List Char}
    (h : splitDouble? cs = some (before, after)) : cs = before ++ ':' :: ':' :: after := by
  induction cs using splitDouble?.induct generalizing before with
  | case1 rest =>
    rw [splitDouble?, Option.some.injEq, Prod.mk.injEq] at h
    rw [← h.1, ← h.2]
    rfl
  | case2 c rest hne ih =>
    rw [splitDouble?] at h
    · obtain ⟨⟨front, back⟩, hsplit, heq⟩ := Option.map_eq_some_iff.mp h
      cases heq
      rw [ih hsplit]
      rfl
    · exact hne
  | case3 => cases h

/-- What is read from a stretch are parts that make it up. -/
theorem exists_spell_of_stretch? {cs : List Char} (h : stretch? closing cs = some gs) :
    ∃ parts, cs = List.intercalate [':'] parts ∧ Spell closing parts gs := by
  rw [stretch?] at h
  split at h
  · next hempty =>
    refine ⟨[], List.isEmpty_iff.mp hempty, ?_⟩
    cases h
    exact .nil
  · exact ⟨_, (Text.intercalate_splitAll cs).symm, groupsOf?_eq_some_iff.mp h⟩

/-- **What is read as an address.** -/
theorem ofChars?_eq_some_iff {cs : List Char} {a : AddressV6} :
    ofChars? cs = some a ↔ IsLiteral cs a := by
  constructor
  · intro h
    rw [ofChars?] at h
    split at h
    · next before after hsplit =>
      simp only [Option.bind_eq_bind, Option.bind_eq_some_iff] at h
      obtain ⟨gs, hgs, hs, hhs, h⟩ := h
      split at h
      · next hle =>
        cases h
        obtain ⟨front, rfl, hfront⟩ := exists_spell_of_stretch? hgs
        obtain ⟨back, rfl, hback⟩ := exists_spell_of_stretch? hhs
        exact .inr ⟨front, back, gs, hs, splitDouble?_eq_some hsplit, hfront, hback, hle, rfl⟩
      · cases h
    · obtain ⟨gs, hgs, h⟩ := Option.bind_eq_some_iff.mp h
      split at h
      · next hlength =>
        cases h
        exact .inl ⟨_, gs, (Text.intercalate_splitAll cs).symm, groupsOf?_eq_some_iff.mp hgs,
          hlength, rfl⟩
      · cases h
  · rintro (⟨parts, gs, rfl, hparts, hlength, rfl⟩ | ⟨front, back, gs, hs, rfl, hfront, hback, hle, rfl⟩)
    · have hne : parts ≠ [] := by
        rintro rfl
        cases hparts
        cases hlength
      rw [ofChars?_intercalate hparts.arePlain hne, groupsOf?_eq_some_iff.mpr hparts,
        Option.bind_some, if_pos hlength]
    · rw [ofChars?_intercalate_double hfront.arePlain hback.arePlain,
        groupsOf?_eq_some_iff.mpr hfront, groupsOf?_eq_some_iff.mpr hback, Option.bind_some,
        Option.bind_some, if_pos hle]

theorem isLiteral_chars (a : AddressV6) : IsLiteral a.chars a :=
  ofChars?_eq_some_iff.mp (ofChars?_chars a)

end AddressV6

end AccessBroker
