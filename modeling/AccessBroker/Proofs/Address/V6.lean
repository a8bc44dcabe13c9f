/-
Version 6 addresses read back from their text.

A double colon is found where it was put, since no part is empty
(`splitDouble?_intercalate`), and the zeros it stands for are those that were
left out (`longestZeros_spec`). An address that carries one of version 4 is
read back from the text of the latter.
-/
import AccessBroker.Address.V6
import AccessBroker.Proofs.Address.V4

namespace AccessBroker.AddressV6

/-! ## One group -/

theorem colon_not_mem_toDigits (g : Nat) : ':' ∉ Nat.toDigits 16 g :=
  Text.not_mem_toDigits (b := 14) (by decide)

theorem dot_not_mem_toDigits (g : Nat) : '.' ∉ Nat.toDigits 16 g :=
  Text.not_mem_toDigits (b := 14) (by decide)

theorem foldl_hexDigit?_none (cs : List Char) :
    cs.foldl (fun value c => do some (16 * (← value) + (← Text.hexDigit? c))) none = none := by
  induction cs with
  | nil => rfl
  | cons c cs ih => exact ih

theorem foldl_hexDigit?_cons {c : Char} {cs : List Char} {v n : Nat} :
    (c :: cs).foldl (fun value c => do some (16 * (← value) + (← Text.hexDigit? c))) (some v) =
        some n ↔
      ∃ d, Text.hexDigit? c = some d ∧
        cs.foldl (fun value c => do some (16 * (← value) + (← Text.hexDigit? c)))
          (some (16 * v + d)) = some n := by
  rw [List.foldl_cons]
  cases Text.hexDigit? c with
  | none =>
    have hnone := foldl_hexDigit?_none cs
    simp only [Option.bind_eq_bind, Option.bind_some, Option.bind_none] at hnone ⊢
    simp [hnone]
  | some d => simp

/-- Digits are taken up to the number that they spell behind those taken before. -/
theorem foldl_hexDigit?_eq_some_iff {n : Nat} : ∀ {cs : List Char} {v : Nat},
    cs.foldl (fun value c => do some (16 * (← value) + (← Text.hexDigit? c))) (some v) = some n ↔
      ∃ ds : List Nat, (∀ d ∈ ds, d < 16) ∧ cs.map Text.asciiLower = ds.map Nat.digitChar ∧
        ds.foldl (fun v d => 16 * v + d) v = n
  | [], v => by
    simp only [List.foldl_nil, Option.some.injEq, List.map_nil, List.nil_eq, List.map_eq_nil_iff]
    constructor
    · exact fun h => ⟨[], List.forall_mem_nil _, rfl, h⟩
    · rintro ⟨ds, -, rfl, h⟩
      exact h
  | c :: cs, v => by
    rw [foldl_hexDigit?_cons]
    constructor
    · rintro ⟨d, hc, h⟩
      obtain ⟨hd, hlower⟩ := Text.hexDigit?_eq_some_iff.mp hc
      obtain ⟨ds, hds, hmap, hsum⟩ := foldl_hexDigit?_eq_some_iff.mp h
      refine ⟨d :: ds, List.forall_mem_cons.mpr ⟨hd, hds⟩, ?_, hsum⟩
      rw [List.map_cons, List.map_cons, hlower, hmap]
    · rintro ⟨_ | ⟨d, ds⟩, hds, hmap, hsum⟩
      · cases hmap
      · obtain ⟨hd, hds⟩ := List.forall_mem_cons.mp hds
        obtain ⟨hlower, hmap⟩ := List.cons.inj hmap
        exact ⟨d, Text.hexDigit?_eq_some_iff.mpr ⟨hd, hlower⟩,
          foldl_hexDigit?_eq_some_iff.mpr ⟨ds, hds, hmap, hsum⟩⟩

/-- A group is read back from its digits. -/
theorem group?_toDigits {g : Nat} (h : g < 65536) : group? (Nat.toDigits 16 g) = some g := by
  have hlength : (Nat.toDigits 16 g).length ≤ 4 :=
    (Nat.length_toDigits_le_iff (by omega) (by omega)).mpr (by omega)
  have hpos : 0 < (Nat.toDigits 16 g).length := Nat.length_toDigits_pos
  have hdigits : ∀ d ∈ Text.digitsIn 14 g, d < 16 := fun d hd => Text.lt_of_mem_digitsIn hd
  have hmap : (Nat.toDigits 16 g).map Text.asciiLower =
      (Text.digitsIn 14 g).map Nat.digitChar := by
    rw [Text.toDigits_eq_map 14, List.map_map]
    exact List.map_congr_left fun d hd => Text.asciiLower_digitChar d (hdigits d hd)
  rw [group?, if_neg (by omega)]
  exact foldl_hexDigit?_eq_some_iff.mpr ⟨_, hdigits, hmap, Text.foldl_digitsIn 14 g⟩

/-! ## Parts with colons between them -/

/-- Parts of an address: none is empty, and no colon stands in them. -/
def ArePlain (parts : List (List Char)) : Prop := ∀ part ∈ parts, part ≠ [] ∧ ':' ∉ part

section

variable {part : List Char} {parts front back : List (List Char)}

theorem ArePlain.tail (h : ArePlain (part :: parts)) : ArePlain parts := fun p hp =>
  h p (List.mem_cons_of_mem part hp)

theorem intercalate_colon (part next : List Char) (parts : List (List Char)) :
    List.intercalate [':'] (part :: next :: parts) =
      part ++ ':' :: List.intercalate [':'] (next :: parts) := by
  rw [List.intercalate_cons_cons, List.append_assoc, List.singleton_append]

/-- Parts that are put together begin with a character other than a colon. -/
theorem ArePlain.exists_eq_cons (h : ArePlain (part :: parts)) :
    ∃ c cs, List.intercalate [':'] (part :: parts) = c :: cs ∧ c ≠ ':' := by
  obtain ⟨hne, hcolon⟩ := h part List.mem_cons_self
  obtain ⟨c, cs, rfl⟩ := List.exists_cons_of_ne_nil hne
  have hc : c ≠ ':' := fun heq => hcolon (heq ▸ List.mem_cons_self)
  cases parts with
  | nil => exact ⟨c, cs, List.intercalate_singleton, hc⟩
  | cons next parts =>
    exact ⟨c, _, by rw [intercalate_colon, List.cons_append], hc⟩

theorem ArePlain.splitAll (h : ArePlain parts) (hne : parts ≠ []) :
    Text.splitAll ':' (List.intercalate [':'] parts) = parts :=
  Text.splitAll_intercalate hne fun p hp => (h p hp).2

theorem stretch?_intercalate (closing : Bool) (h : ArePlain parts) :
    stretch? closing (List.intercalate [':'] parts) = groupsOf? closing parts := by
  cases parts with
  | nil => rfl
  | cons part parts =>
    obtain ⟨c, cs, hchars, -⟩ := h.exists_eq_cons
    have hne : (List.intercalate [':'] (part :: parts)).isEmpty = false := by rw [hchars]; rfl
    rw [stretch?, hne, h.splitAll (List.cons_ne_nil part parts)]
    rfl

/-! ## The double colon -/

theorem splitDouble?_append : ∀ {ds : List Char} (cs : List Char), ':' ∉ ds →
    splitDouble? (ds ++ cs) = (splitDouble? cs).map fun (before, after) => (ds ++ before, after)
  | [], cs, _ => by simp
  | d :: ds, cs, h => by
    rw [List.mem_cons, not_or] at h
    have ih := splitDouble?_append cs h.2
    have hd : d ≠ ':' := Ne.symm h.1
    rw [List.cons_append, splitDouble?, ih, Option.map_map]
    · rfl
    · rintro _ rfl -
      exact hd rfl

theorem splitDouble?_colon {c : Char} (hc : c ≠ ':') (cs : List Char) :
    splitDouble? (':' :: c :: cs) =
      (splitDouble? (c :: cs)).map fun (before, after) => (':' :: before, after) := by
  rw [splitDouble?]
  rintro _ - heq
  exact hc (List.cons.inj heq).1

/-- A double colon is found behind the parts it was put behind. -/
theorem splitDouble?_intercalate : ∀ {parts : List (List Char)} (rest : List Char),
    ArePlain parts → splitDouble? (List.intercalate [':'] parts ++ ':' :: ':' :: rest) =
      some (List.intercalate [':'] parts, rest)
  | [], rest, _ => rfl
  | [part], rest, h => by
    rw [List.intercalate_singleton, splitDouble?_append _ (h part List.mem_cons_self).2]
    simp [splitDouble?]
  | part :: next :: parts, rest, h => by
    have ih := splitDouble?_intercalate rest h.tail
    obtain ⟨c, cs, hchars, hc⟩ := h.tail.exists_eq_cons
    rw [intercalate_colon, List.append_assoc, splitDouble?_append _ (h part List.mem_cons_self).2,
      List.cons_append]
    rw [hchars] at ih ⊢
    rw [List.cons_append, splitDouble?_colon hc, ← List.cons_append, ih]
    rfl

/-- There is no double colon among parts. -/
theorem splitDouble?_intercalate_eq_none : ∀ {parts : List (List Char)}, ArePlain parts →
    splitDouble? (List.intercalate [':'] parts) = none
  | [], _ => rfl
  | [part], h => by
    have hchars := splitDouble?_append [] (h part List.mem_cons_self).2
    rw [List.append_nil] at hchars
    rw [List.intercalate_singleton, hchars]
    rfl
  | part :: next :: parts, h => by
    have ih := splitDouble?_intercalate_eq_none h.tail
    obtain ⟨c, cs, hchars, hc⟩ := h.tail.exists_eq_cons
    rw [intercalate_colon, splitDouble?_append _ (h part List.mem_cons_self).2]
    rw [hchars] at ih ⊢
    rw [splitDouble?_colon hc, ih]
    rfl

/-! ## Reading parts -/

/-- Parts without a double colon are read one by one. -/
theorem ofChars?_intercalate (h : ArePlain parts) (hne : parts ≠ []) :
    ofChars? (List.intercalate [':'] parts) = (groupsOf? true parts).bind fun all =>
      if all.length = 8 then some (ofGroups all) else none := by
  rw [ofChars?, splitDouble?_intercalate_eq_none h, h.splitAll hne]
  rfl

/-- Parts on both sides of a double colon are read with zeros for the ones that are missing. -/
theorem ofChars?_intercalate_double (hfront : ArePlain front) (hback : ArePlain back) :
    ofChars? (List.intercalate [':'] front ++ ':' :: ':' :: List.intercalate [':'] back) =
      (groupsOf? false front).bind fun gs => (groupsOf? true back).bind fun hs =>
        if gs.length + hs.length ≤ 7 then
          some (ofGroups (gs ++ List.replicate (8 - gs.length - hs.length) 0 ++ hs))
        else none := by
  rw [ofChars?, splitDouble?_intercalate _ hfront]
  simp only [stretch?_intercalate _ hfront, stretch?_intercalate _ hback]
  rfl

end

/-! ## Groups in hexadecimal -/

theorem arePlain_groups (gs : List Nat) : ArePlain (gs.map (Nat.toDigits 16)) := by
  intro part hpart
  obtain ⟨g, -, rfl⟩ := List.mem_map.mp hpart
  exact ⟨Nat.toDigits_ne_nil, colon_not_mem_toDigits g⟩

theorem groupsOf?_map (closing : Bool) : ∀ {gs : List Nat}, (∀ g ∈ gs, g < 65536) →
    groupsOf? closing (gs.map (Nat.toDigits 16)) = some gs
  | [], _ => rfl
  | [g], h => by
    rw [List.map_singleton, groupsOf?, group?_toDigits (h g List.mem_cons_self)]
  | g :: g' :: gs, h => by
    have ih := groupsOf?_map closing fun e he => h e (List.mem_cons_of_mem g he)
    rw [List.map_cons] at ih
    rw [List.map_cons, List.map_cons, groupsOf?, group?_toDigits (h g List.mem_cons_self), ih]
    · rfl
    · exact nofun

theorem groupChars_cons_cons (g g' : Nat) (gs : List Nat) :
    groupChars (g :: g' :: gs) = Nat.toDigits 16 g ++ ':' :: groupChars (g' :: gs) :=
  intercalate_colon _ _ _

theorem groupChars_singleton (g : Nat) : groupChars [g] = Nat.toDigits 16 g := by
  simp [groupChars]

/-! ## The longest run of zeros -/

theorem take_zerosAtFront (gs : List Nat) :
    zerosAtFront gs ≤ gs.length ∧
      gs.take (zerosAtFront gs) = List.replicate (zerosAtFront gs) 0 := by
  have hwhile := List.takeWhile_prefix (l := gs) (fun g => decide (g = 0))
  refine ⟨hwhile.length_le, ?_⟩
  rw [zerosAtFront, ← List.prefix_iff_eq_take.mp hwhile, List.eq_replicate_iff]
  refine ⟨rfl, fun g hg => ?_⟩
  exact of_decide_eq_true (List.all_eq_true.mp List.all_takeWhile g hg)

/-- What the double colon stands for is zeros. -/
theorem longestZeros_spec : ∀ gs : List Nat,
    (longestZeros gs).1 + (longestZeros gs).2 ≤ gs.length ∧
    gs = gs.take (longestZeros gs).1 ++ List.replicate (longestZeros gs).2 0 ++
      gs.drop ((longestZeros gs).1 + (longestZeros gs).2)
  | [] => by simp [longestZeros]
  | g :: gs => by
    obtain ⟨hle, hgs⟩ := longestZeros_spec gs
    obtain ⟨hfront, hzeros⟩ := take_zerosAtFront (g :: gs)
    rw [longestZeros]
    dsimp only
    split
    · dsimp only
      refine ⟨by omega, ?_⟩
      rw [List.take_zero, List.nil_append, Nat.zero_add, ← hzeros, List.take_append_drop]
    · dsimp only
      refine ⟨by rw [List.length_cons]; omega, ?_⟩
      rw [List.take_succ_cons, Nat.add_right_comm, List.drop_succ_cons, List.cons_append,
        List.cons_append, ← hgs]

/-! ## All groups -/

theorem length_groups (a : AddressV6) : a.groups.length = 8 := by
  rw [groups, List.length_map, List.length_range]

theorem lt_of_mem_groups {a : AddressV6} {g : Nat} (h : g ∈ a.groups) : g < 65536 := by
  obtain ⟨i, -, rfl⟩ := List.mem_map.mp h
  exact Nat.mod_lt _ (by omega)

/-- The first groups add up to the front of the word. -/
theorem foldl_groups {n : Nat} (hn : n < Nat.pow 65536 8) : ∀ j ≤ 8,
    ((List.range j).map fun i => n / Nat.pow 65536 (7 - i) % 65536).foldl
      (fun n g => n * 65536 + g) 0 = n / Nat.pow 65536 (8 - j)
  | 0, _ => (Nat.div_eq_of_lt hn).symm
  | j + 1, hj => by
    have hpow : Nat.pow 65536 (8 - j) = Nat.pow 65536 (7 - j) * 65536 := by
      rw [show 8 - j = 7 - j + 1 by omega]
      rfl
    have hdiv := Nat.div_add_mod (n / Nat.pow 65536 (7 - j)) 65536
    rw [List.range_succ, List.map_append, List.foldl_append, foldl_groups hn j (by omega), hpow,
      ← Nat.div_div_eq_div_mul, List.map_singleton, List.foldl_cons, List.foldl_nil, Nat.mul_comm]
    have hlast : 8 - (j + 1) = 7 - j := by omega
    rw [hlast]
    exact hdiv

/-- The groups make up the address. -/
theorem ofGroups_groups (a : AddressV6) : ofGroups a.groups = a := by
  obtain ⟨bits⟩ := a
  have hfold := foldl_groups (n := bits.toNat) bits.isLt 8 (by omega)
  rw [ofGroups, groups]
  congr 1
  rw [← BitVec.toNat_inj, BitVec.toNat_ofNat, hfold]
  change bits.toNat / 1 % _ = _
  rw [Nat.div_one]
  exact Nat.mod_eq_of_lt bits.isLt

/-- Two stretches of groups are read back with zeros for the ones that are missing. -/
theorem ofChars?_double {front back : List Nat} (hfront : ∀ g ∈ front, g < 65536)
    (hback : ∀ g ∈ back, g < 65536) (hlength : front.length + back.length ≤ 7) :
    ofChars? (groupChars front ++ ':' :: ':' :: groupChars back) =
      some (ofGroups (front ++ List.replicate (8 - front.length - back.length) 0 ++ back)) := by
  rw [groupChars, groupChars, ofChars?_intercalate_double (arePlain_groups _) (arePlain_groups _),
    groupsOf?_map _ hfront, groupsOf?_map _ hback, Option.bind_some, Option.bind_some,
    if_pos hlength]

theorem ofChars?_groupChars {gs : List Nat} (hlt : ∀ g ∈ gs, g < 65536) (hlength : gs.length = 8) :
    ofChars? (groupChars gs) = some (ofGroups gs) := by
  have hne : gs.map (Nat.toDigits 16) ≠ [] := fun hnil => by
    rw [List.map_eq_nil_iff.mp hnil] at hlength
    cases hlength
  rw [groupChars, ofChars?_intercalate (arePlain_groups gs) hne, groupsOf?_map true hlt,
    Option.bind_some, if_pos hlength]

theorem ofChars?_plainChars (a : AddressV6) : ofChars? a.plainChars = some a := by
  have hlt : ∀ g ∈ a.groups, g < 65536 := fun g hg => lt_of_mem_groups hg
  have hlength := length_groups a
  obtain ⟨hle, hgroups⟩ := longestZeros_spec a.groups
  rw [plainChars]
  dsimp only
  generalize (longestZeros a.groups).1 = start at hle hgroups ⊢
  generalize (longestZeros a.groups).2 = length at hle hgroups ⊢
  split
  -- As many zeros are put back as were left out, two at least, so seven groups are shown at most.
  · next hlong =>
    have hfront : (a.groups.take start).length = start := by
      rw [List.length_take]
      omega
    have hback : (a.groups.drop (start + length)).length = 8 - (start + length) := by
      rw [List.length_drop, hlength]
    have hmissing : 8 - start - (8 - (start + length)) = length := by omega
    have hread := ofChars?_double (fun g hg => hlt g (List.mem_of_mem_take hg))
      (fun g hg => hlt g (List.mem_of_mem_drop hg)) (by rw [hfront, hback]; omega)
    rw [hfront, hback, hmissing, ← hgroups, ofGroups_groups] at hread
    rw [List.append_assoc]
    exact hread
  · rw [ofChars?_groupChars hlt hlength, ofGroups_groups]

/-! ## Addresses that carry one of version 4 -/

theorem bits_of_mapped? {a : AddressV6} {v4 : AddressV4} (h : a.mapped? = some v4) :
    a.bits.toNat = 0xFFFF * 4294967296 + v4.bits.toNat := by
  rw [mapped?] at h
  split at h
  · next hmarked =>
    cases h
    rw [BitVec.toNat_ofNat]
    omega
  · cases h

/-- The groups that the text of such an address stands for. -/
theorem ofGroups_mapped {a : AddressV6} {n : Nat}
    (h : a.bits.toNat = 0xFFFF * 4294967296 + n) :
    ofGroups [0, 0, 0, 0, 0, 0xFFFF, n / 65536, n % 65536] = a := by
  obtain ⟨bits⟩ := a
  have hbits := bits.isLt
  change bits.toNat = _ at h
  rw [ofGroups]
  congr 1
  rw [← BitVec.toNat_inj, BitVec.toNat_ofNat]
  simp only [List.foldl_cons, List.foldl_nil]
  omega

theorem ofChars?_mapped {a : AddressV6} {v4 : AddressV4} (h : a.mapped? = some v4) :
    ofChars? ("::ffff:".toList ++ v4.chars) = some a := by
  have hbits := bits_of_mapped? h
  have hlong := AddressV4.seven_le_length_chars v4
  have hgroup : group? v4.chars = none := by
    rw [group?, if_pos (by omega)]
  have hsplit : Text.splitAll ':' ("ffff".toList ++ ':' :: v4.chars) =
      ["ffff".toList, v4.chars] := by
    rw [Text.splitAll_append _ (by decide), Text.splitAll_of_not_mem v4.colon_not_mem_chars]
  have hfront : group? "ffff".toList = some 0xFFFF := by decide
  have hback : stretch? true ("ffff".toList ++ ':' :: v4.chars) =
      some [0xFFFF, v4.bits.toNat / 65536, v4.bits.toNat % 65536] := by
    rw [stretch?, hsplit]
    simp only [groupsOf?, hfront, hgroup, AddressV4.ofChars?_chars]
    rfl
  change ofChars? (':' :: ':' :: ("ffff".toList ++ ':' :: v4.chars)) = some a
  rw [ofChars?, splitDouble?]
  simp only [hback]
  change some (ofGroups [0, 0, 0, 0, 0, 0xFFFF, v4.bits.toNat / 65536, v4.bits.toNat % 65536]) = _
  rw [ofGroups_mapped hbits]

/-- **An address is read back from its text.** -/
theorem ofChars?_chars (a : AddressV6) : ofChars? a.chars = some a := by
  rw [chars]
  cases h : a.mapped? with
  | none => exact ofChars?_plainChars a
  | some v4 => exact ofChars?_mapped h

/-! ## No address of version 4 -/

theorem dot_not_mem_groupChars : ∀ gs : List Nat, '.' ∉ groupChars gs
  | [] => List.not_mem_nil
  | [g] => by
    rw [groupChars_singleton]
    exact dot_not_mem_toDigits g
  | g :: g' :: gs => by
    simp [groupChars_cons_cons, dot_not_mem_toDigits g, dot_not_mem_groupChars (g' :: gs)]

theorem dot_not_mem_plainChars (a : AddressV6) : '.' ∉ a.plainChars := by
  rw [plainChars]
  dsimp only
  split
  · simp [dot_not_mem_groupChars]
  · exact dot_not_mem_groupChars _

/-- The text of an address is none of version 4. -/
theorem v4_ofChars?_chars (a : AddressV6) : AddressV4.ofChars? a.chars = none := by
  rw [chars]
  cases a.mapped? with
  | none => rw [AddressV4.ofChars?, Text.splitAll_of_not_mem (dot_not_mem_plainChars a)]
  | some v4 =>
    have hfirst : '.' ∉ "::ffff:".toList ++ Text.natDigits (v4.bits.toNat / 16777216) := by
      rw [List.mem_append, not_or]
      exact ⟨by decide, AddressV4.dot_not_mem_natDigits _⟩
    have hoctet : AddressV4.octet?
        ("::ffff:".toList ++ Text.natDigits (v4.bits.toNat / 16777216)) = none := by
      rw [AddressV4.octet?, if_pos]
      right
      rw [List.length_append]
      exact Nat.lt_of_lt_of_le (by decide) (Nat.le_add_right _ _)
    dsimp only
    rw [AddressV4.chars_eq, ← List.append_assoc, AddressV4.ofChars?,
      Text.splitAll_append _ hfirst]
    split
    · next heq =>
      rw [← (List.cons.inj heq).1, hoctet]
      rfl
    · rfl

/-! ## The characters of an address -/

theorem toDigits_subset (g : Nat) : Nat.toDigits 16 g ⊆ Address.alphabet := by
  intro c hc
  obtain ⟨d, hd, rfl⟩ := Text.exists_digitChar_of_mem_toDigits (b := 14) hc
  exact Address.digitChar_mem_alphabet d hd

theorem groupChars_subset : ∀ gs : List Nat, groupChars gs ⊆ Address.alphabet
  | [] => List.nil_subset _
  | [g] => by
    rw [groupChars_singleton]
    exact toDigits_subset g
  | g :: g' :: gs => by
    have hcolon : ':' ∈ Address.alphabet := by decide
    rw [groupChars_cons_cons, List.append_subset, List.cons_subset]
    exact ⟨toDigits_subset g, hcolon, groupChars_subset (g' :: gs)⟩

theorem plainChars_subset (a : AddressV6) : a.plainChars ⊆ Address.alphabet := by
  have hcolons : "::".toList ⊆ Address.alphabet := by decide
  rw [plainChars]
  dsimp only
  split
  · simp only [List.append_subset, groupChars_subset, hcolons, and_self]
  · exact groupChars_subset _

theorem chars_subset (a : AddressV6) : a.chars ⊆ Address.alphabet := by
  have hfront : "::ffff:".toList ⊆ Address.alphabet := by decide
  rw [chars]
  split
  · rw [List.append_subset]
    exact ⟨hfront, AddressV4.chars_subset _⟩
  · exact plainChars_subset a

/-- Each group has a digit at least. -/
theorem length_le_length_groupChars : ∀ gs : List Nat, gs.length ≤ (groupChars gs).length
  | [] => Nat.zero_le _
  | [g] => by
    rw [groupChars_singleton]
    exact Nat.length_toDigits_pos
  | g :: g' :: gs => by
    have ih := length_le_length_groupChars (g' :: gs)
    simp only [groupChars_cons_cons, List.length_append, List.length_cons] at ih ⊢
    omega

/-- The shortest text of an address is a double colon alone. -/
theorem two_le_length_plainChars (a : AddressV6) :
    2 ≤ a.plainChars.length ∧ (a.plainChars.length = 2 → a.plainChars = "::".toList) := by
  have hgroups := length_le_length_groupChars a.groups
  rw [length_groups] at hgroups
  rw [plainChars]
  dsimp only
  split
  · generalize groupChars (a.groups.take _) = front
    generalize groupChars (a.groups.drop _) = back
    rw [List.length_append, List.length_append]
    change 2 ≤ front.length + 2 + back.length ∧ _
    refine ⟨by omega, fun h => ?_⟩
    have hfront : front = [] := List.length_eq_zero_iff.mp (by change _ + 2 + _ = _ at h; omega)
    have hback : back = [] := List.length_eq_zero_iff.mp (by change _ + 2 + _ = _ at h; omega)
    rw [hfront, hback]
    rfl
  · exact ⟨by omega, fun h => by omega⟩

theorem two_le_length_chars (a : AddressV6) :
    2 ≤ a.chars.length ∧ (a.chars.length = 2 → a.chars = "::".toList) := by
  rw [chars]
  split
  · rw [List.length_append]
    change 2 ≤ 7 + _ ∧ (7 + _ = 2 → _)
    exact ⟨by omega, fun h => by omega⟩
  · exact two_le_length_plainChars a

end AccessBroker.AddressV6
