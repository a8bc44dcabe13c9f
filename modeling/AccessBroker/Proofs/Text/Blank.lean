/-
Text that trimming leaves alone.

Trimming takes nothing from a text whose first and last characters show, hence
nothing from one in which every character does. Conversely the first and the last
character show where nothing is taken (`not_isBlank_head`, `not_isBlank_last`).
What is taken is blank (`exists_trimChars_append`), and so is all that stands
around a text that shows (`trimChars_append`).
-/
import AccessBroker.Text.Blank
import AccessBroker.Text.Number
import Mathlib.Data.List.DropRight

namespace AccessBroker.Text

theorem trimStart_of_head {c : Char} (h : isBlank c = false) (cs : List Char) :
    trimStart (c :: cs) = c :: cs := by
  simp [trimStart, h]

theorem trimStart_of_all {cs : List Char} (h : ∀ c ∈ cs, isBlank c = false) :
    trimStart cs = cs := by
  cases cs with
  | nil => rfl
  | cons c cs => exact trimStart_of_head (h c List.mem_cons_self) cs

theorem trimEnd_of_all {cs : List Char} (h : ∀ c ∈ cs, isBlank c = false) : trimEnd cs = cs := by
  have hall : ∀ c ∈ cs.reverse, isBlank c = false := fun c hc => h c (List.mem_reverse.mp hc)
  have hrev := trimStart_of_all hall
  rw [trimStart] at hrev
  rw [trimEnd, hrev, List.reverse_reverse]

theorem trimChars_of_all {cs : List Char} (h : ∀ c ∈ cs, isBlank c = false) : trimChars cs = cs := by
  rw [trimChars, trimStart_of_all h, trimEnd_of_all h]

theorem trim_of_all {s : String} (h : ∀ c ∈ s.toList, isBlank c = false) : trim s = s := by
  rw [trim, trimChars_of_all h, String.ofList_toList]

theorem isPrefix_trimEnd (cs : List Char) : trimEnd cs <+: cs :=
  List.rdropWhile_prefix isBlank cs

/-! ## What is trimmed -/

/-- Blank characters around a text that shows at every character are what trimming takes away. -/
theorem trimChars_append {front cs back : List Char} (hfront : ∀ c ∈ front, isBlank c = true)
    (hcs : ∀ c ∈ cs, isBlank c = false) (hback : ∀ c ∈ back, isBlank c = true) :
    trimChars (front ++ cs ++ back) = cs := by
  have hend : trimEnd (cs ++ back) = cs := by
    rw [trimEnd, List.reverse_append,
      List.dropWhile_append_of_pos fun c hc => hback c (List.mem_reverse.mp hc)]
    exact trimEnd_of_all hcs
  rw [trimChars, trimStart, List.append_assoc, List.dropWhile_append_of_pos hfront]
  cases cs with
  | nil =>
    rw [List.nil_append, ← List.append_nil back, List.dropWhile_append_of_pos hback]
    rfl
  | cons c cs =>
    have hshow := Bool.eq_false_iff.mp (hcs c List.mem_cons_self)
    rw [List.cons_append, List.dropWhile_cons_of_neg hshow]
    exact hend

/-- What trimming takes away is blank. -/
theorem exists_trimChars_append (cs : List Char) : ∃ front back,
    cs = front ++ trimChars cs ++ back ∧ (∀ c ∈ front, isBlank c = true) ∧
      ∀ c ∈ back, isBlank c = true := by
  have hend : trimChars cs ++ (trimStart cs).rtakeWhile isBlank = trimStart cs :=
    List.rdropWhile_append_rtakeWhile
  refine ⟨cs.takeWhile isBlank, (trimStart cs).rtakeWhile isBlank, ?_, ?_, ?_⟩
  · rw [List.append_assoc, hend, trimStart, List.takeWhile_append_dropWhile]
  · exact fun c hc => List.mem_takeWhile_imp hc
  · exact fun c hc => List.mem_rtakeWhile_imp hc

/-- Letters show in either case. -/
theorem isBlank_of_asciiLower {c : Char} (h : isBlank (asciiLower c) = false) :
    isBlank c = false := by
  rw [asciiLower] at h
  split at h
  · next hupper =>
    have hlow : 65 ≤ c.toNat := hupper.1
    have hhigh : c.toNat ≤ 90 := hupper.2
    simp only [isBlank, Bool.or_eq_false_iff, Bool.and_eq_false_iff, decide_eq_false_iff_not,
      beq_eq_false_iff_ne]
    omega
  · exact h

theorem isBlank_digitChar : ∀ n < 16, isBlank (Nat.digitChar n) = false := by decide

/-! ## Trimmed texts -/

theorem trimEnd_trimEnd (cs : List Char) : trimEnd (trimEnd cs) = trimEnd cs :=
  List.rdropWhile_idempotent isBlank cs

/-- Trimming a trimmed text takes nothing more from it. -/
theorem trimChars_trimChars (cs : List Char) : trimChars (trimChars cs) = trimChars cs := by
  have hstart : trimStart (trimChars cs) = trimChars cs := by
    have hprefix : trimChars cs <+: trimStart cs := isPrefix_trimEnd (trimStart cs)
    cases h : trimChars cs with
    | nil => rfl
    | cons c rest =>
      have hhead := List.head?_dropWhile_not isBlank cs
      obtain ⟨back, hback⟩ := h ▸ hprefix
      rw [← trimStart, ← hback] at hhead
      exact trimStart_of_head hhead rest
  rw [trimChars, hstart, trimChars, trimEnd_trimEnd]

theorem trim_trim (s : String) : trim (trim s) = trim s := by
  rw [trim, toList_trim, trimChars_trimChars, ← trim]

/-! ## Nothing to trim -/

theorem trimStart_sublist (cs : List Char) : (trimStart cs).Sublist cs :=
  (List.dropWhile_suffix _).sublist

theorem trimEnd_sublist (cs : List Char) : (trimEnd cs).Sublist cs := (isPrefix_trimEnd cs).sublist

/-- Characters with nothing to trim have nothing to trim at either end. -/
theorem trimStart_of_trimChars {cs : List Char} (h : trimChars cs = cs) : trimStart cs = cs := by
  have hend := trimEnd_sublist (trimStart cs)
  rw [← trimChars, h] at hend
  exact (trimStart_sublist cs).eq_of_length_le hend.length_le

theorem trimEnd_of_trimChars {cs : List Char} (h : trimChars cs = cs) : trimEnd cs = cs := by
  rwa [trimChars, trimStart_of_trimChars h] at h

theorem not_isBlank_head {c : Char} {cs : List Char} (h : trimChars (c :: cs) = c :: cs) :
    isBlank c = false := by
  have hstart := trimStart_of_trimChars h
  refine Bool.eq_false_iff.mpr fun hblank => ?_
  rw [trimStart, List.dropWhile_cons_of_pos hblank] at hstart
  have hlength := (trimStart_sublist cs).length_le
  rw [trimStart, hstart, List.length_cons] at hlength
  omega

theorem not_isBlank_last {front : List Char} {c : Char} (h : trimChars (front ++ [c]) = front ++ [c]) :
    isBlank c = false := by
  have hend := trimEnd_of_trimChars h
  refine Bool.eq_false_iff.mpr fun hblank => ?_
  rw [trimEnd, List.reverse_concat, List.dropWhile_cons_of_pos hblank] at hend
  have hlength := (trimEnd_sublist front).length_le
  rw [trimEnd, hend, List.length_append, List.length_singleton] at hlength
  omega

/-- A text with nothing to trim shows a character, unless it is empty. -/
theorem isBlankText_of_trim {s : String} (h : trim s = s) (hne : s ≠ "") :
    isBlankText s = false := by
  have htrim : trimChars s.toList = s.toList := by rw [← toList_trim, h]
  cases hcs : s.toList with
  | nil => exact absurd (String.toList_eq_nil_iff.mp hcs) hne
  | cons c rest =>
    rw [hcs] at htrim
    rw [isBlankText, hcs, List.all_cons, not_isBlank_head htrim, Bool.false_and]

end AccessBroker.Text
