/-
Texts as segments of paths.

A text is put into a path with every byte spelled that is not one of a letter, a digit or four
other characters. No slash is left in it and nothing that ends a path, so a target with such a
segment at its end has it as it is spelled (`ofText_segment`), and the text is read back from it
(`decode?_segment`).
-/
import AccessBroker.Http.Target
import AccessBroker.Proofs.Text.Percent
import AccessBroker.Proofs.Text.Split
import Mathlib.Data.List.TakeWhile

namespace AccessBroker.Http.Target

/-- Whether a character may stand in any part of an address as it is. -/
def isUnreserved (c : Char) : Bool := c.isAlphanum || "-._~".toList.contains c

/-- The characters of a text as one segment of a path. -/
def segmentChars (s : String) : List Char :=
  Text.Percent.encodeChars (fun c => !isUnreserved c) s.toList

/-- A text as one segment of a path. -/
def segment (s : String) : String := String.ofList (segmentChars s)

theorem decode?_segment (s : String) : Text.Percent.decode? (segment s) = some s :=
  Text.Percent.decode?_encode (by decide) s

theorem segmentChars_ne_nil {s : String} (h : s ≠ "") : segmentChars s ≠ [] :=
  Text.Percent.encodeChars_ne_nil (by simpa using h)

/-- Only unreserved characters and percent signs stand in a segment. -/
theorem mem_segmentChars {s : String} {c : Char} (h : c ∈ segmentChars s) :
    isUnreserved c = true ∨ c = '%' := by
  rcases Text.Percent.mem_encodeChars h with hspell | ⟨-, -, hplain⟩
  · have hall : ∀ d ∈ Text.Percent.spellChars, isUnreserved d = true ∨ d = '%' :=
      Text.forall_mem_of_all (by decide)
    exact hall c hspell
  · exact .inl (by simpa using hplain)

theorem lt_of_isUnreserved {c : Char} (h : isUnreserved c = true) : c.toNat < 0x80 := by
  have hother : ∀ d ∈ "-._~".toList, d.toNat < 0x80 := Text.forall_mem_of_all (by decide)
  rw [isUnreserved, Bool.or_eq_true] at h
  rcases h with halphanum | hmark
  · exact Text.lt_of_isAlphanum halphanum
  · exact hother c (List.contains_iff_mem.mp hmark)

/-- An unreserved character may stand in a path and ends none. -/
theorem inPath_of_isUnreserved {c : Char} (h : isUnreserved c = true) :
    inPath c = true ∧ c ∉ ['/', '?', '#'] := by
  have hascii : ∀ n < 0x80, isUnreserved (Char.ofNat n) = true →
      inPath (Char.ofNat n) = true ∧ Char.ofNat n ∉ ['/', '?', '#'] := by
    decide +kernel
  have hc := hascii c.toNat (lt_of_isUnreserved h)
  rw [Char.ofNat_toNat] at hc
  exact hc h

/-- What stands in a segment may stand in a path and ends none. -/
theorem inPath_of_mem {s : String} {c : Char} (h : c ∈ segmentChars s) :
    inPath c = true ∧ c ∉ ['/', '?', '#'] := by
  rcases mem_segmentChars h with hunreserved | rfl
  · exact inPath_of_isUnreserved hunreserved
  · decide

/-! ## A path that ends in a segment -/

/-- A path without a mark that ends it is a target as it is spelled. -/
theorem ofPath_of_plain {cs : List Char} (h : ∀ c ∈ cs, inPath c = true ∧ c ≠ '?' ∧ c ≠ '#') :
    ofPath cs = .ok ⟨String.ofList cs, none⟩ := by
  have htake : cs.takeWhile (fun c => c ≠ '?' && c ≠ '#') = cs := by
    refine List.takeWhile_eq_self_iff.mpr ?_
    intro c hc
    simp [(h c hc).2]
  have hall : cs.all inPath = true := List.all_eq_true.mpr fun c hc => (h c hc).1
  simp only [ofPath, htake, hall]
  simp

theorem ofText_of_plain {s : String} {c : Char} {rest : List Char} (hs : s.toList = '/' :: c :: rest)
    (h : ∀ d ∈ s.toList, inPath d = true ∧ d ≠ '?' ∧ d ≠ '#') :
    ofText s = if maxLength < s.utf8ByteSize then .error .tooLong else .ok ⟨s, none⟩ := by
  have hpath := ofPath_of_plain h
  rw [String.ofList_toList, hs] at hpath
  rw [ofText, hs]
  simp only [hpath]

/-- **Any text has a place in a path.** A path that ends in the segment of a text is a target as it
is spelled, without a query, unless it is too long. -/
theorem ofText_segment {dir : String} {first : Char} {rest : List Char}
    (hfirst : dir.toList = '/' :: first :: rest)
    (hdir : ∀ c ∈ dir.toList, inPath c = true ∧ c ≠ '?' ∧ c ≠ '#') (s : String) :
    ofText (dir ++ segment s) =
      if maxLength < (dir ++ segment s).utf8ByteSize then .error .tooLong
      else .ok ⟨dir ++ segment s, none⟩ := by
  have hlist : (dir ++ segment s).toList = dir.toList ++ segmentChars s := by
    rw [String.toList_append, segment, String.toList_ofList]
  have hfront : (dir ++ segment s).toList = '/' :: first :: (rest ++ segmentChars s) := by
    rw [hlist, hfirst, List.cons_append, List.cons_append]
  refine ofText_of_plain hfront ?_
  intro c hc
  rw [hlist] at hc
  rcases List.mem_append.mp hc with hc | hc
  · exact hdir c hc
  · have hplain := inPath_of_mem hc
    simp only [List.mem_cons, List.not_mem_nil, or_false, not_or] at hplain
    exact ⟨hplain.1, hplain.2.2⟩

end AccessBroker.Http.Target
