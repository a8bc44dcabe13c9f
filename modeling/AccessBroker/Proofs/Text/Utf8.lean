/-
Text read back from its bytes.

`scan_encodeChar`: the bytes of a character are read as that character, in
front of any bytes; so a text is read back from its bytes
(`decodeChars?_encodeChars`). Bytes of plain ASCII never belong to a character
that has other bytes too (`exists_of_encodeChars_eq_append`).
-/
import AccessBroker.Text.Utf8
import Mathlib.Data.List.Basic
import Mathlib.Data.List.Induction

namespace AccessBroker.Text.Utf8

@[simp] theorem encodeChars_nil : encodeChars [] = [] := rfl

@[simp] theorem encodeChars_cons (c : Char) (cs : List Char) :
    encodeChars (c :: cs) = encodeChar c ++ encodeChars cs := List.flatMap_cons

@[simp] theorem encodeChars_append (cs ds : List Char) :
    encodeChars (cs ++ ds) = encodeChars cs ++ encodeChars ds := List.flatMap_append

/-- A character of plain ASCII is one byte. -/
theorem encodeChar_ascii {c : Char} (h : c.toNat < 0x80) : encodeChar c = [UInt8.ofNat c.toNat] := by
  simp [encodeChar, h]

theorem isValidChar_toNat (c : Char) :
    c.toNat < 0xD800 ∨ (0xDFFF < c.toNat ∧ c.toNat < 0x110000) := by
  have h := c.valid
  simp only [UInt32.isValidChar, Nat.isValidChar] at h
  simp only [Char.toNat]
  omega

theorem toNat_ofNat_of_lt {n : Nat} (h : n < 256) : (UInt8.ofNat n).toNat = n := by
  rw [UInt8.toNat_ofNat']
  exact Nat.mod_eq_of_lt h

/-- A byte of a character is the number of the character, or lies past ASCII. -/
theorem toNat_of_mem_encodeChar {c : Char} {b : UInt8} (h : b ∈ encodeChar c) :
    (b.toNat = c.toNat ∧ c.toNat < 0x80) ∨ 0x80 ≤ b.toNat := by
  have hvalid := isValidChar_toNat c
  unfold encodeChar at h
  dsimp only at h
  split at h
  · next hone =>
    rw [List.mem_singleton.mp h, toNat_ofNat_of_lt (by omega)]
    exact .inl ⟨rfl, hone⟩
  · right
    repeat' split at h
    all_goals
      simp only [List.mem_cons, List.not_mem_nil, or_false] at h
      rcases h with rfl | rfl | rfl | rfl
    all_goals
      rw [toNat_ofNat_of_lt (by omega)]
      omega

/-- A continuing byte is read as the six bits it was made of. -/
theorem isTail_ofNat (n : Nat) : isTail (UInt8.ofNat (0x80 + n % 64)) = true := by
  have hn : (UInt8.ofNat (0x80 + n % 64)).toNat = 0x80 + n % 64 := toNat_ofNat_of_lt (by omega)
  simp only [isTail, Bool.and_eq_true, decide_eq_true_eq, UInt8.le_iff_toNat_le, hn,
    UInt8.reduceToNat]
  omega

theorem tailBits_ofNat (n : Nat) : tailBits (UInt8.ofNat (0x80 + n % 64)) = n % 64 := by
  have hn : (UInt8.ofNat (0x80 + n % 64)).toNat = 0x80 + n % 64 := toNat_ofNat_of_lt (by omega)
  unfold tailBits
  generalize UInt8.ofNat (0x80 + n % 64) = b at hn ⊢
  omega

/-! ## The front of some bytes -/

theorem scan_one {n : Nat} (h : n < 0x80) (rest : List UInt8) :
    scan (UInt8.ofNat n) rest = .char (Char.ofNat n) rest := by
  have hn : (UInt8.ofNat n).toNat = n := toNat_ofNat_of_lt (by omega)
  rw [scan.eq_def]
  dsimp only
  rw [if_pos, hn]
  simp only [UInt8.lt_iff_toNat_lt, hn, UInt8.reduceToNat]
  omega

theorem scan_two {n : Nat} (h : 0x80 ≤ n) (h' : n < 0x800) (rest : List UInt8) :
    scan (UInt8.ofNat (0xC0 + n / 64)) (UInt8.ofNat (0x80 + n % 64) :: rest) =
      .char (Char.ofNat n) rest := by
  have hlead : (UInt8.ofNat (0xC0 + n / 64)).toNat = 0xC0 + n / 64 := toNat_ofNat_of_lt (by omega)
  rw [scan.eq_def]
  dsimp only
  rw [if_neg, if_pos]
  · simp only [isTail_ofNat, tailBits_ofNat, hlead, if_true]
    congr 2
    omega
  all_goals
    simp only [UInt8.lt_iff_toNat_lt, UInt8.le_iff_toNat_le, hlead, UInt8.reduceToNat]
    omega

theorem scan_three {n : Nat} (h : 0x800 ≤ n) (h' : n < 0x10000) (hv : n < 0xD800 ∨ 0xDFFF < n)
    (rest : List UInt8) :
    scan (UInt8.ofNat (0xE0 + n / 4096))
        (UInt8.ofNat (0x80 + n / 64 % 64) :: UInt8.ofNat (0x80 + n % 64) :: rest) =
      .char (Char.ofNat n) rest := by
  have hlead : (UInt8.ofNat (0xE0 + n / 4096)).toNat = 0xE0 + n / 4096 :=
    toNat_ofNat_of_lt (by omega)
  have hsecond : isSecondOfThree (UInt8.ofNat (0xE0 + n / 4096)) (UInt8.ofNat (0x80 + n / 64 % 64)) =
      true := by
    have hb : (UInt8.ofNat (0x80 + n / 64 % 64)).toNat = 0x80 + n / 64 % 64 :=
      toNat_ofNat_of_lt (by omega)
    unfold isSecondOfThree
    split
    · next he =>
      rw [← UInt8.toNat_inj, hlead] at he
      simp only [Bool.and_eq_true, decide_eq_true_eq, UInt8.le_iff_toNat_le, hb, UInt8.reduceToNat]
        at he ⊢
      omega
    split
    · next he =>
      rw [← UInt8.toNat_inj, hlead] at he
      simp only [Bool.and_eq_true, decide_eq_true_eq, UInt8.le_iff_toNat_le, hb, UInt8.reduceToNat]
        at he ⊢
      omega
    · exact isTail_ofNat _
  rw [scan.eq_def]
  dsimp only
  rw [if_neg, if_neg, if_pos]
  · simp only [hsecond, isTail_ofNat, tailBits_ofNat, hlead, if_true]
    congr 2
    omega
  all_goals
    simp only [UInt8.lt_iff_toNat_lt, UInt8.le_iff_toNat_le, hlead, UInt8.reduceToNat]
    omega

theorem scan_four {n : Nat} (h : 0x10000 ≤ n) (h' : n < 0x110000) (rest : List UInt8) :
    scan (UInt8.ofNat (0xF0 + n / 262144))
        (UInt8.ofNat (0x80 + n / 4096 % 64) :: UInt8.ofNat (0x80 + n / 64 % 64) ::
          UInt8.ofNat (0x80 + n % 64) :: rest) =
      .char (Char.ofNat n) rest := by
  have hlead : (UInt8.ofNat (0xF0 + n / 262144)).toNat = 0xF0 + n / 262144 :=
    toNat_ofNat_of_lt (by omega)
  have hsecond : isSecondOfFour (UInt8.ofNat (0xF0 + n / 262144))
      (UInt8.ofNat (0x80 + n / 4096 % 64)) = true := by
    have hb : (UInt8.ofNat (0x80 + n / 4096 % 64)).toNat = 0x80 + n / 4096 % 64 :=
      toNat_ofNat_of_lt (by omega)
    unfold isSecondOfFour
    split
    · next he =>
      rw [← UInt8.toNat_inj, hlead] at he
      simp only [Bool.and_eq_true, decide_eq_true_eq, UInt8.le_iff_toNat_le, hb, UInt8.reduceToNat]
        at he ⊢
      omega
    split
    · next he =>
      rw [← UInt8.toNat_inj, hlead] at he
      simp only [Bool.and_eq_true, decide_eq_true_eq, UInt8.le_iff_toNat_le, hb, UInt8.reduceToNat]
        at he ⊢
      omega
    · exact isTail_ofNat _
  rw [scan.eq_def]
  dsimp only
  rw [if_neg, if_neg, if_neg, if_pos]
  · simp only [hsecond, isTail_ofNat, tailBits_ofNat, hlead, if_true]
    congr 2
    omega
  all_goals
    simp only [UInt8.lt_iff_toNat_lt, UInt8.le_iff_toNat_le, hlead, UInt8.reduceToNat]
    omega

/-- **One character.** Its bytes are read as the character, whatever follows. -/
theorem scan_encodeChar (c : Char) (rest : List UInt8) :
    ∃ a tail, encodeChar c = a :: tail ∧ scan a (tail ++ rest) = .char c rest := by
  have hvalid := isValidChar_toNat c
  have hself : Char.ofNat c.toNat = c := Char.ofNat_toNat c
  rw [← congrArg (Front.char · rest) hself]
  unfold encodeChar
  dsimp only
  split
  · next h1 => exact ⟨_, _, rfl, scan_one h1 rest⟩
  split
  · next h1 h2 => exact ⟨_, _, rfl, scan_two (by omega) h2 rest⟩
  split
  · next h1 h2 h3 => exact ⟨_, _, rfl, scan_three (by omega) h3 (by omega) rest⟩
  · next h1 h2 h3 => exact ⟨_, _, rfl, scan_four (by omega) (by omega) rest⟩

/-! ## The bytes of a character that was read -/

theorem toNat_ofNat {n : Nat} (h : n < 0xD800 ∨ (0xDFFF < n ∧ n < 0x110000)) :
    (Char.ofNat n).toNat = n := by
  have hvalid : n.isValidChar := h
  rw [Char.ofNat, dif_pos hvalid]
  rfl

theorem ofNat_eq {b : UInt8} {n : Nat} (h : n = b.toNat) : UInt8.ofNat n = b := by
  rw [h, UInt8.ofNat_toNat]

theorem le_of_isTail {b : UInt8} (h : isTail b = true) : 0x80 ≤ b.toNat ∧ b.toNat ≤ 0xBF := by
  simpa only [isTail, Bool.and_eq_true, decide_eq_true_eq, UInt8.le_iff_toNat_le,
    UInt8.reduceToNat] using h

theorem le_of_isSecondOfThree {a b : UInt8} (h : isSecondOfThree a b = true) :
    0x80 ≤ b.toNat ∧ b.toNat ≤ 0xBF ∧ (a.toNat = 0xE0 → 0xA0 ≤ b.toNat) ∧
      (a.toNat = 0xED → b.toNat ≤ 0x9F) := by
  simp only [isSecondOfThree, isTail, ← UInt8.toNat_inj, UInt8.reduceToNat] at h
  split at h
  · simp only [Bool.and_eq_true, decide_eq_true_eq, UInt8.le_iff_toNat_le, UInt8.reduceToNat] at h
    omega
  split at h
  all_goals
    simp only [Bool.and_eq_true, decide_eq_true_eq, UInt8.le_iff_toNat_le, UInt8.reduceToNat] at h
    omega

theorem le_of_isSecondOfFour {a b : UInt8} (h : isSecondOfFour a b = true) :
    0x80 ≤ b.toNat ∧ b.toNat ≤ 0xBF ∧ (a.toNat = 0xF0 → 0x90 ≤ b.toNat) ∧
      (a.toNat = 0xF4 → b.toNat ≤ 0x8F) := by
  simp only [isSecondOfFour, isTail, ← UInt8.toNat_inj, UInt8.reduceToNat] at h
  split at h
  · simp only [Bool.and_eq_true, decide_eq_true_eq, UInt8.le_iff_toNat_le, UInt8.reduceToNat] at h
    omega
  split at h
  all_goals
    simp only [Bool.and_eq_true, decide_eq_true_eq, UInt8.le_iff_toNat_le, UInt8.reduceToNat] at h
    omega

theorem encodeChar_two {a b : UInt8} (ha : 0xC2 ≤ a.toNat ∧ a.toNat ≤ 0xDF)
    (hb : isTail b = true) :
    encodeChar (Char.ofNat ((a.toNat - 0xC0) * 64 + tailBits b)) = [a, b] := by
  have hb := le_of_isTail hb
  unfold tailBits
  rw [encodeChar, toNat_ofNat (by omega), if_neg (by omega), if_pos (by omega),
    ofNat_eq (b := a) (by omega), ofNat_eq (b := b) (by omega)]

theorem encodeChar_three {a b c : UInt8} (ha : 0xE0 ≤ a.toNat ∧ a.toNat ≤ 0xEF)
    (hb : isSecondOfThree a b = true) (hc : isTail c = true) :
    encodeChar (Char.ofNat ((a.toNat - 0xE0) * 4096 + tailBits b * 64 + tailBits c)) =
      [a, b, c] := by
  have hb := le_of_isSecondOfThree hb
  have hc := le_of_isTail hc
  unfold tailBits
  rw [encodeChar, toNat_ofNat (by omega), if_neg (by omega), if_neg (by omega), if_pos (by omega),
    ofNat_eq (b := a) (by omega), ofNat_eq (b := b) (by omega), ofNat_eq (b := c) (by omega)]

theorem encodeChar_four {a b c d : UInt8} (ha : 0xF0 ≤ a.toNat ∧ a.toNat ≤ 0xF4)
    (hb : isSecondOfFour a b = true) (hc : isTail c = true) (hd : isTail d = true) :
    encodeChar (Char.ofNat ((a.toNat - 0xF0) * 262144 + tailBits b * 4096 + tailBits c * 64 +
      tailBits d)) = [a, b, c, d] := by
  have hb := le_of_isSecondOfFour hb
  have hc := le_of_isTail hc
  have hd := le_of_isTail hd
  unfold tailBits
  rw [encodeChar, toNat_ofNat (by omega), if_neg (by omega), if_neg (by omega), if_neg (by omega),
    ofNat_eq (b := a) (by omega), ofNat_eq (b := b) (by omega), ofNat_eq (b := c) (by omega),
    ofNat_eq (b := d) (by omega)]

/-- A character that was read has the bytes it was read from. -/
theorem encodeChar_of_scan {a : UInt8} {c : Char} {rest rest' : List UInt8}
    (h : scan a rest = .char c rest') : a :: rest = encodeChar c ++ rest' := by
  rw [scan.eq_def] at h
  simp only [UInt8.lt_iff_toNat_lt, UInt8.le_iff_toNat_le, UInt8.reduceToNat] at h
  -- By the first byte; bytes that are missing or out of place read as no character, so one
  -- branch is left for each length.
  split at h
  · next ha =>
    obtain ⟨rfl, rfl⟩ := Front.char.inj h
    rw [encodeChar, toNat_ofNat (by omega), if_pos ha, UInt8.ofNat_toNat]
    rfl
  split at h
  · next ha =>
    repeat' split at h
    all_goals simp only [Front.char.injEq, reduceCtorEq] at h
    obtain ⟨rfl, rfl⟩ := h
    rw [encodeChar_two ha ‹_›]
    rfl
  split at h
  · next ha =>
    repeat' split at h
    all_goals simp only [Front.char.injEq, reduceCtorEq] at h
    obtain ⟨rfl, rfl⟩ := h
    rw [encodeChar_three ha ‹_› ‹_›]
    rfl
  split at h
  · next ha =>
    repeat' split at h
    all_goals simp only [Front.char.injEq, reduceCtorEq] at h
    obtain ⟨rfl, rfl⟩ := h
    rw [encodeChar_four ha ‹_› ‹_› ‹_›]
    rfl
  · cases h

/-! ## Texts -/

theorem fronts_encodeChars : ∀ cs : List Char, fronts (encodeChars cs) = cs.map some
  | [] => by rw [encodeChars_nil, fronts, List.map_nil]
  | c :: cs => by
    obtain ⟨a, tail, hbytes, hscan⟩ := scan_encodeChar c (encodeChars cs)
    rw [encodeChars_cons, hbytes, List.cons_append, fronts]
    split
    · next d rest' h =>
      rw [hscan, Front.char.injEq] at h
      obtain ⟨rfl, rfl⟩ := h
      rw [fronts_encodeChars cs, List.map_cons]
    · next rest' h =>
      rw [hscan] at h
      cases h

/-- **Text survives its bytes.** -/
theorem decodeChars?_encodeChars (cs : List Char) : decodeChars? (encodeChars cs) = some cs := by
  rw [decodeChars?, fronts_encodeChars]
  induction cs with
  | nil => rfl
  | cons c cs ih => simp [List.mapM_cons, ih]

/-- **Bytes survive being read as text.** -/
theorem encodeChars_of_decodeChars? {bytes : List UInt8} {cs : List Char}
    (h : decodeChars? bytes = some cs) : bytes = encodeChars cs := by
  unfold decodeChars? at h
  fun_induction fronts bytes generalizing cs with
  | case1 =>
    cases h
    rfl
  | case2 a rest c rest' hscan ih =>
    simp only [List.mapM_cons, id_eq, Option.bind_eq_bind, Option.bind_some,
      Option.bind_eq_some_iff, Option.pure_def, Option.some.injEq] at h
    obtain ⟨ds, hds, rfl⟩ := h
    rw [encodeChars_cons, ← ih hds, encodeChar_of_scan hscan]
  | case3 a rest rest' hscan ih =>
    simp [List.mapM_cons] at h

theorem decode?_encode (s : String) : decode? (encode s) = some s := by
  rw [decode?, encode, decodeChars?_encodeChars, Option.map_some, String.ofList_toList]

/-! ## Plain ASCII -/

theorem encodeChar_ne_nil (c : Char) : encodeChar c ≠ [] := by
  obtain ⟨a, tail, h, -⟩ := scan_encodeChar c []
  rw [h]
  exact List.cons_ne_nil a tail

/-- Each character has a byte at least. -/
theorem length_le_length_encodeChars : ∀ cs : List Char, cs.length ≤ (encodeChars cs).length
  | [] => Nat.le_refl _
  | c :: cs => by
    have hc := List.length_pos_iff.mpr (encodeChar_ne_nil c)
    have ih := length_le_length_encodeChars cs
    rw [encodeChars_cons, List.length_append, List.length_cons]
    omega

/-- Characters of plain ASCII are one byte each. -/
theorem encodeChars_ascii : ∀ {cs : List Char}, (∀ c ∈ cs, c.toNat < 0x80) →
    encodeChars cs = cs.map fun c => UInt8.ofNat c.toNat
  | [], _ => rfl
  | c :: cs, h => by
    rw [encodeChars_cons, encodeChar_ascii (h c List.mem_cons_self),
      encodeChars_ascii fun d hd => h d (List.mem_cons_of_mem c hd)]
    rfl

theorem encodeChars_injective {cs ds : List Char} (h : encodeChars cs = encodeChars ds) :
    cs = ds := by
  have hcs := decodeChars?_encodeChars cs
  rw [h, decodeChars?_encodeChars, Option.some.injEq] at hcs
  exact hcs.symm

/-- Bytes of plain ASCII at the end are characters of their own. -/
theorem exists_of_encodeChars_eq_append {ds : List Char} (hds : ∀ d ∈ ds, d.toNat < 0x80)
    {cs : List Char} {front : List UInt8} (h : encodeChars cs = front ++ encodeChars ds) :
    ∃ cs', cs = cs' ++ ds ∧ front = encodeChars cs' := by
  induction ds using List.reverseRecOn generalizing cs with
  | nil => exact ⟨cs, (List.append_nil cs).symm, by simpa using h.symm⟩
  | append_singleton ds d ih =>
    have hd := hds d (by simp)
    rw [encodeChars_append, encodeChars_cons, encodeChars_nil, List.append_nil,
      encodeChar_ascii hd, ← List.append_assoc] at h
    rcases List.eq_nil_or_concat' cs with rfl | ⟨cs, c, rfl⟩
    · simp at h
    · rw [encodeChars_append, encodeChars_cons, encodeChars_nil, List.append_nil] at h
      have hmem : UInt8.ofNat d.toNat ∈ encodeChar c := by
        have hlast := congrArg List.getLast? h
        rw [List.getLast?_append_of_ne_nil _ (encodeChar_ne_nil c), List.getLast?_concat] at hlast
        exact List.mem_of_getLast? hlast
      have hnum := toNat_ofNat_of_lt (n := d.toNat) (by omega)
      have hcd : c = d := by
        rcases toNat_of_mem_encodeChar hmem with ⟨heq, -⟩ | hhigh
        · rw [hnum] at heq
          exact Char.toNat_inj.mp heq.symm
        · omega
      subst hcd
      rw [encodeChar_ascii hd] at h
      obtain ⟨cs', rfl, hfront⟩ := ih (fun d hd => hds d (by simp [hd]))
        (List.append_cancel_right h)
      exact ⟨cs', List.append_assoc .., hfront⟩

/-- Bytes of plain ASCII can be parted anywhere. -/
theorem exists_append_of_encodeChars_eq {ds : List Char} (hds : ∀ d ∈ ds, d.toNat < 0x80)
    {xs ys : List UInt8} (h : encodeChars ds = xs ++ ys) :
    ∃ cs cs', ds = cs ++ cs' ∧ xs = encodeChars cs ∧ ys = encodeChars cs' := by
  rw [encodeChars_ascii hds, List.map_eq_append_iff] at h
  obtain ⟨cs, cs', rfl, rfl, rfl⟩ := h
  refine ⟨cs, cs', rfl, ?_, ?_⟩
  · exact (encodeChars_ascii fun d hd => hds d (List.mem_append_left cs' hd)).symm
  · exact (encodeChars_ascii fun d hd => hds d (List.mem_append_right cs hd)).symm

/-- They can be parted at a character too. -/
theorem exists_cons_of_encodeChars_eq {ds : List Char} (hds : ∀ d ∈ ds, d.toNat < 0x80) {c : Char}
    {xs ys : List UInt8} (h : encodeChars ds = xs ++ (encodeChars [c] ++ ys)) :
    ∃ cs cs', ds = cs ++ c :: cs' ∧ xs = encodeChars cs := by
  obtain ⟨cs, ds', rfl, rfl, hds'⟩ := exists_append_of_encodeChars_eq hds h
  obtain ⟨cs₁, cs₂, rfl, hc, -⟩ := exists_append_of_encodeChars_eq
    (fun d hd => hds d (List.mem_append_right cs hd)) hds'.symm
  obtain rfl := encodeChars_injective hc
  exact ⟨cs, cs₂, rfl, rfl⟩

end AccessBroker.Text.Utf8
