/-
Numbers read back from their digits.

`digitsIn` gives the values of the digits that a number is written with in some
base (`toDigits_eq_map`), the most significant first: they add up to the number
(`foldl_digitsIn`), and a zero stands first only in zero itself
(`eq_zero_of_digitsIn`). Taken up one by one they stay below the number all the
way, so a reader with a limit reads a number that is within it
(`digitsFrom_map`).
-/
import AccessBroker.Text.Number

namespace AccessBroker.Text

/-- The values of the digits of a number in base `b + 2`. -/
def digitsIn (b n : Nat) : List Nat :=
  if n < b + 2 then [n] else digitsIn b (n / (b + 2)) ++ [n % (b + 2)]
termination_by n
decreasing_by exact Nat.div_lt_self (by omega) (by omega)

theorem toDigits_eq_map (b n : Nat) : Nat.toDigits (b + 2) n = (digitsIn b n).map Nat.digitChar := by
  fun_induction digitsIn b n with
  | case1 n h => rw [Nat.toDigits_of_lt_base h, List.map_singleton]
  | case2 n h ih =>
    rw [Nat.toDigits_of_base_le (by omega) (by omega), ih, List.map_append, List.map_singleton]

theorem natDigits_eq_map (n : Nat) : natDigits n = (digitsIn 8 n).map Nat.digitChar :=
  toDigits_eq_map 8 n

theorem lt_of_mem_digitsIn {b n d : Nat} (h : d ∈ digitsIn b n) : d < b + 2 := by
  fun_induction digitsIn b n with
  | case1 n hn => rwa [List.mem_singleton.mp h]
  | case2 n hn ih =>
    rcases List.mem_append.mp h with h | h
    · exact ih h
    · rw [List.mem_singleton.mp h]
      exact Nat.mod_lt n (by omega)

theorem exists_digitChar_of_mem_toDigits {b n : Nat} {c : Char} (h : c ∈ Nat.toDigits (b + 2) n) :
    ∃ d < b + 2, Nat.digitChar d = c := by
  rw [toDigits_eq_map, List.mem_map] at h
  obtain ⟨d, hd, hchar⟩ := h
  exact ⟨d, lt_of_mem_digitsIn hd, hchar⟩

/-- A character that is no digit of a base does not occur in a number written in it. -/
theorem not_mem_toDigits {b n : Nat} {c : Char} (h : ∀ d < b + 2, Nat.digitChar d ≠ c) :
    c ∉ Nat.toDigits (b + 2) n := by
  intro hc
  obtain ⟨d, hd, hchar⟩ := exists_digitChar_of_mem_toDigits hc
  exact h d hd hchar

theorem natDigits_ne_nil (n : Nat) : natDigits n ≠ [] :=
  List.length_pos_iff.mp Nat.length_toDigits_pos

/-- The digits of a number add up to it. -/
theorem foldl_digitsIn (b n : Nat) : (digitsIn b n).foldl (fun v d => (b + 2) * v + d) 0 = n := by
  fun_induction digitsIn b n with
  | case1 n h => simp
  | case2 n h ih =>
    rw [List.foldl_append, ih, List.foldl_cons, List.foldl_nil]
    exact Nat.div_add_mod n (b + 2)

theorem digitsIn_ne_nil (b n : Nat) : digitsIn b n ≠ [] := by
  rw [digitsIn]
  split
  · exact List.cons_ne_nil _ _
  · exact List.append_ne_nil_of_right_ne_nil _ (List.cons_ne_nil _ _)

/-- Only zero begins with a zero. -/
theorem eq_zero_of_digitsIn {b n : Nat} {ds : List Nat} (h : digitsIn b n = 0 :: ds) :
    n = 0 ∧ ds = [] := by
  fun_induction digitsIn b n generalizing ds with
  | case1 n hn =>
    obtain ⟨rfl, rfl⟩ := List.cons.inj h
    exact ⟨rfl, rfl⟩
  | case2 n hn ih =>
    cases hfront : digitsIn b (n / (b + 2)) with
    | nil => exact absurd hfront (digitsIn_ne_nil _ _)
    | cons d front =>
      rw [hfront, List.cons_append, List.cons.injEq] at h
      rw [h.1] at hfront
      have hzero := (ih hfront).1
      have hpos : 0 < n / (b + 2) := Nat.div_pos (by omega) (by omega)
      omega

theorem length_digitsIn_le {b n k : Nat} (hk : 0 < k) (h : n < Nat.pow (b + 2) k) :
    (digitsIn b n).length ≤ k := by
  have hlength := (Nat.length_toDigits_le_iff (b := b + 2) (by omega) hk).mpr h
  rwa [toDigits_eq_map, List.length_map] at hlength

/-- A padded number is so many digits, which add up to it. -/
theorem exists_padded_eq {width n : Nat} (hpos : 0 < width) (h : n < Nat.pow 10 width) :
    ∃ ds : List Nat, ds.length = width ∧ (∀ d ∈ ds, d < 10) ∧ ds.foldl (fun v d => 10 * v + d) 0 = n ∧
      padded width n = ds.map Nat.digitChar := by
  have hle : (digitsIn 8 n).length ≤ width := length_digitsIn_le hpos h
  have hzeros : ∀ k, (List.replicate k 0).foldl (fun v d => 10 * v + d) 0 = 0 := by
    intro k
    induction k with
    | zero => rfl
    | succ k ih => exact ih
  refine ⟨List.replicate (width - (digitsIn 8 n).length) 0 ++ digitsIn 8 n, ?_, ?_, ?_, ?_⟩
  · rw [List.length_append, List.length_replicate, Nat.sub_add_cancel hle]
  · intro d hd
    rcases List.mem_append.mp hd with hd | hd
    · rw [List.eq_of_mem_replicate hd]
      decide
    · exact lt_of_mem_digitsIn hd
  · rw [List.foldl_append, hzeros]
    exact foldl_digitsIn 8 n
  · rw [padded, natDigits_eq_map, List.length_map, List.map_append, List.map_replicate]
    rfl

theorem length_padded {width n : Nat} (hpos : 0 < width) (h : n < Nat.pow 10 width) :
    (padded width n).length = width := by
  obtain ⟨ds, rfl, -, -, hpadded⟩ := exists_padded_eq hpos h
  rw [hpadded, List.length_map]

/-! ## Taking digits up -/

theorem le_foldl_digits (b : Nat) : ∀ (ds : List Nat) (v : Nat),
    v ≤ ds.foldl (fun v d => (b + 2) * v + d) v
  | [], v => Nat.le_refl v
  | d :: ds, v => by
    have hstep : v ≤ (b + 2) * v + d := by
      rw [Nat.add_mul]
      omega
    exact Nat.le_trans hstep (le_foldl_digits b ds _)

theorem digit?_digitChar : ∀ d < 10, digit? (Nat.digitChar d) = some d := by decide

theorem isSome_digit?_of_mem {n : Nat} {c : Char} (h : c ∈ natDigits n) :
    (digit? c).isSome = true := by
  obtain ⟨d, hd, rfl⟩ := exists_digitChar_of_mem_toDigits (b := 8) h
  rw [digit?_digitChar d hd]
  rfl

theorem hexDigit?_digitChar : ∀ d < 16, hexDigit? (Nat.digitChar d) = some d := by decide

theorem asciiLower_digitChar : ∀ d < 16, asciiLower (Nat.digitChar d) = Nat.digitChar d := by decide

/-- The hexadecimal digits are those that a number is written with, in either case. -/
theorem hexDigit?_eq_some_iff {c : Char} {n : Nat} :
    hexDigit? c = some n ↔ n < 16 ∧ asciiLower c = Nat.digitChar n := by
  have hsmall : ∀ m < 128, ∀ n < 16, hexDigit? (Char.ofNat m) = some n ↔
      asciiLower (Char.ofNat m) = Nat.digitChar n := by decide
  have hdigit : ∀ m < 128, ∀ d ∈ hexDigit? (Char.ofNat m), d < 16 := by decide
  have hchar : ∀ n < 16, (Nat.digitChar n).toNat < 128 := by decide
  by_cases hc : c.toNat < 128
  · have hiff := hsmall c.toNat hc n
    have hlt := hdigit c.toNat hc n
    rw [Char.ofNat_toNat] at hiff hlt
    exact ⟨fun h => ⟨hlt h, (hiff (hlt h)).mp h⟩, fun h => (hiff h.1).mpr h.2⟩
  · have hle : ∀ {d : Char}, d.toNat < 128 → ¬c ≤ d := fun hd h => hc (Nat.lt_of_le_of_lt h hd)
    have h9 : ¬c ≤ '9' := hle (by decide)
    have hf : ¬c ≤ 'f' := hle (by decide)
    have hF : ¬c ≤ 'F' := hle (by decide)
    have hZ : ¬c ≤ 'Z' := hle (by decide)
    simp only [hexDigit?, asciiLower, h9, hf, hF, hZ, and_false, if_false, reduceCtorEq, false_iff,
      not_and]
    rintro hn rfl
    exact hc (hchar n hn)

theorem digitsFrom_map (limit : Nat) : ∀ (ds : List Nat) (v : Nat), (∀ d ∈ ds, d < 10) →
    ds.foldl (fun v d => 10 * v + d) v ≤ limit →
    digitsFrom limit v (ds.map Nat.digitChar) = .ok (ds.foldl (fun v d => 10 * v + d) v)
  | [], _, _, _ => rfl
  | d :: ds, v, hds, hlimit => by
    have hstep : 10 * v + d ≤ limit := Nat.le_trans (le_foldl_digits 8 ds (10 * v + d)) hlimit
    rw [List.map_cons, digitsFrom, digit?_digitChar d (hds d List.mem_cons_self)]
    simp only [if_pos hstep]
    exact digitsFrom_map limit ds _ (fun e he => hds e (List.mem_cons_of_mem d he)) hlimit

theorem le_of_digitsFrom {limit n : Nat} : ∀ {cs : List Char} {v : Nat}, v ≤ limit →
    digitsFrom limit v cs = .ok n → n ≤ limit
  | [], v, hv, h => Except.ok.inj h ▸ hv
  | c :: cs, v, _, h => by
    rw [digitsFrom] at h
    split at h
    · cases h
    · split at h
      · next hstep => exact le_of_digitsFrom hstep h
      · cases h

/-- A number within a limit is read back from its digits. -/
theorem digitsFrom_natDigits {limit n : Nat} (h : n ≤ limit) :
    digitsFrom limit 0 (natDigits n) = .ok n := by
  have hsum := foldl_digitsIn 8 n
  rw [natDigits_eq_map, digitsFrom_map limit _ _ (fun d hd => lt_of_mem_digitsIn hd)]
  · exact congrArg _ hsum
  · exact Nat.le_trans (Nat.le_of_eq hsum) h

theorem natDigits_injective {m n : Nat} (h : natDigits m = natDigits n) : m = n := by
  have hm := digitsFrom_natDigits (Nat.le_max_left m n)
  rw [h, digitsFrom_natDigits (Nat.le_max_right m n)] at hm
  exact (Except.ok.inj hm).symm

theorem after?_eq_some_iff : ∀ {front cs rest : List Char},
    after? front cs = some rest ↔ cs = front ++ rest
  | [], cs, rest => by rw [after?, Option.some.injEq, List.nil_append]
  | p :: ps, [], rest => by simp [after?]
  | p :: ps, c :: cs, rest => by
    rw [after?, List.cons_append, List.cons.injEq]
    split
    · next h => rw [after?_eq_some_iff, h, eq_self, true_and]
    · next h => simp [Ne.symm h]

end AccessBroker.Text
