/-
Numerals.

A numeral is a row of decimal digits, which spell a number (`IsNumeral`); zeros
may stand in front of it, and every number has one. A number is read from a text
exactly if that is a numeral within the limit, with or without a plus sign
(`readNat_eq_ok_iff`).
-/
import AccessBroker.Proofs.Text.Number

namespace AccessBroker.Text

/-- At least one decimal digit, and the number that the digits spell. -/
def IsNumeral (cs : List Char) (n : Nat) : Prop :=
  ∃ ds : List Nat, ds ≠ [] ∧ (∀ d ∈ ds, d < 10) ∧ cs = ds.map Nat.digitChar ∧
    ds.foldl (fun v d => 10 * v + d) 0 = n

theorem isNumeral_natDigits (n : Nat) : IsNumeral (natDigits n) n :=
  ⟨digitsIn 8 n, digitsIn_ne_nil 8 n, fun _ hd => lt_of_mem_digitsIn hd, natDigits_eq_map n,
    foldl_digitsIn 8 n⟩

theorem IsNumeral.ne_nil {cs : List Char} {n : Nat} (h : IsNumeral cs n) : cs ≠ [] := by
  obtain ⟨ds, hne, -, rfl, -⟩ := h
  exact fun hmap => hne (List.map_eq_nil_iff.mp hmap)

theorem IsNumeral.exists_digitChar {cs : List Char} {n : Nat} (h : IsNumeral cs n) {c : Char}
    (hc : c ∈ cs) : ∃ d < 10, c = Nat.digitChar d := by
  obtain ⟨ds, -, hds, rfl, -⟩ := h
  obtain ⟨d, hd, rfl⟩ := List.mem_map.mp hc
  exact ⟨d, hds d hd, rfl⟩

/-- Nothing but digits stands in a numeral. -/
theorem IsNumeral.not_mem {cs : List Char} {n : Nat} (h : IsNumeral cs n) {c : Char}
    (hc : ∀ d < 10, c ≠ Nat.digitChar d) : c ∉ cs := by
  intro hmem
  obtain ⟨d, hd, heq⟩ := h.exists_digitChar hmem
  exact hc d hd heq

theorem digit?_eq_some_iff {c : Char} {d : Nat} :
    digit? c = some d ↔ d < 10 ∧ c = Nat.digitChar d := by
  constructor
  · intro h
    rw [digit?] at h
    split at h
    · next hc =>
      have hlow : 48 ≤ c.toNat := hc.1
      have hhigh : c.toNat ≤ 57 := hc.2
      have hzero : '0'.toNat = 48 := rfl
      obtain rfl := Option.some.inj h
      have hchar : ∀ k < 10, Char.ofNat (48 + k) = Nat.digitChar k := by decide
      rw [← hchar _ (by omega), hzero, Nat.add_sub_cancel' hlow, Char.ofNat_toNat]
      exact ⟨by omega, rfl⟩
    · cases h
  · rintro ⟨hd, rfl⟩
    exact digit?_digitChar d hd

/-- Digits are taken up to the number that they spell behind those taken before. -/
theorem digitsFrom_eq_ok_iff {limit n : Nat} : ∀ {cs : List Char} {v : Nat}, v ≤ limit →
    (digitsFrom limit v cs = .ok n ↔ n ≤ limit ∧ ∃ ds : List Nat, (∀ d ∈ ds, d < 10) ∧
      cs = ds.map Nat.digitChar ∧ ds.foldl (fun v d => 10 * v + d) v = n) := by
  intro cs v hv
  constructor
  · intro h
    refine ⟨le_of_digitsFrom hv h, ?_⟩
    induction cs generalizing v with
    | nil => exact ⟨[], by simp, rfl, Except.ok.inj h⟩
    | cons c cs ih =>
      rw [digitsFrom] at h
      split at h
      · cases h
      next d hd =>
      split at h
      · next hstep =>
        obtain ⟨hlt, rfl⟩ := digit?_eq_some_iff.mp hd
        obtain ⟨ds, hds, rfl, hsum⟩ := ih hstep h
        exact ⟨d :: ds, List.forall_mem_cons.mpr ⟨hlt, hds⟩, rfl, hsum⟩
      · cases h
  · rintro ⟨hn, ds, hds, rfl, rfl⟩
    exact digitsFrom_map limit ds v hds hn

theorem digitsFrom_zero_eq_ok_iff {limit n : Nat} {cs : List Char} (hne : cs ≠ []) :
    digitsFrom limit 0 cs = .ok n ↔ n ≤ limit ∧ IsNumeral cs n := by
  rw [digitsFrom_eq_ok_iff (Nat.zero_le limit), IsNumeral]
  refine and_congr_right fun _ => exists_congr fun ds => ⟨?_, fun h => h.2⟩
  rintro ⟨hds, rfl, hsum⟩
  exact ⟨fun hnil => hne (by rw [hnil, List.map_nil]), hds, rfl, hsum⟩

/-- A numeral spells one number only. -/
theorem IsNumeral.unique {cs : List Char} {m n : Nat} (hm : IsNumeral cs m) (hn : IsNumeral cs n) :
    m = n := by
  have hleft : digitsFrom (m + n) 0 cs = .ok m :=
    (digitsFrom_zero_eq_ok_iff hm.ne_nil).mpr ⟨Nat.le_add_right m n, hm⟩
  have hright : digitsFrom (m + n) 0 cs = .ok n :=
    (digitsFrom_zero_eq_ok_iff hn.ne_nil).mpr ⟨Nat.le_add_left n m, hn⟩
  exact Except.ok.inj (hleft.symm.trans hright)

/-- **What is read as a number.** A numeral, with or without a plus sign, whose value keeps to the
limit. -/
theorem readNat_eq_ok_iff {limit n : Nat} {cs : List Char} : readNat limit cs = .ok n ↔
    n ≤ limit ∧ ∃ digits, (cs = digits ∨ cs = '+' :: digits) ∧ IsNumeral digits n := by
  have hplus : ∀ {digits}, IsNumeral digits n → '+' ∉ digits := fun h => h.not_mem (by decide)
  have hminus : ∀ {digits}, IsNumeral digits n → '-' ∉ digits := fun h => h.not_mem (by decide)
  unfold readNat
  split
  · simpa using fun _ h => h.ne_nil rfl
  · simp only [reduceCtorEq, false_iff, not_and]
    rintro - ⟨digits, rfl | heq, h⟩
    · exact hplus h List.mem_cons_self
    · exact h.ne_nil (List.cons.inj heq).2.symm
  · simp only [reduceCtorEq, false_iff, not_and]
    rintro - ⟨digits, rfl | heq, h⟩
    · exact hminus h List.mem_cons_self
    · exact absurd (List.cons.inj heq).1 (by decide)
  · next _ rest hne =>
    rw [digitsFrom_zero_eq_ok_iff fun hnil => hne (by rw [hnil])]
    refine and_congr_right fun _ => ⟨fun h => ⟨rest, .inr rfl, h⟩, ?_⟩
    rintro ⟨digits, rfl | heq, h⟩
    · exact absurd List.mem_cons_self (hplus h)
    · rwa [(List.cons.inj heq).2]
  · next hnil _ _ hnot =>
    rw [digitsFrom_zero_eq_ok_iff hnil]
    refine and_congr_right fun _ => ⟨fun h => ⟨cs, .inl rfl, h⟩, ?_⟩
    rintro ⟨digits, rfl | heq, h⟩
    · exact h
    · exact absurd heq (hnot digits)

end AccessBroker.Text
