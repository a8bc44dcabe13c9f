/-
What the text of a variable is taken for.

The data hold each key once in every table (`isKeyed_valueOf`). A text without blanks
around it is taken for itself unless its looks say otherwise (`Looks`), and only then it
is read as it is written (`readText_valueOf_eq_ok_iff`).
-/
import AccessBroker.Environment.Value
import AccessBroker.Datum.Record
import AccessBroker.Proofs.Datum.Keyed
import AccessBroker.Proofs.Text.Blank
import AccessBroker.Proofs.Text.Split
import Mathlib.Data.List.TakeWhile

namespace AccessBroker.Environment

open Datum

variable {cs after : List Char} {d : Datum}

/-! ## Keys -/

theorem isKeyed_bare (cs : List Char) : IsKeyed (bare cs) := by
  rw [bare]
  split
  · next x _ => cases x <;> exact .simple (by simp [ofSpelling]) (by simp [ofSpelling])
  · split <;> exact .simple (by simp) (by simp)

/-- What is read at the front has each key once, if the elements and entries in it have. -/
theorem isKeyed_of_core? {steps : Nat}
    (helements : ∀ cs ds after, elements? steps cs = some (ds, after) → ∀ d ∈ ds, IsKeyed d)
    (hentries : ∀ cs es after, entries? steps [] cs = some (es, after) → IsKeyed (.table es))
    (h : core? steps cs = some (d, after)) : IsKeyed d := by
  unfold core? at h
  split at h
  · cases h
    exact .simple (by simp) (by simp)
  · cases h
    exact .simple (by simp) (by simp)
  · next rest =>
    obtain ⟨⟨es, after⟩, hread, hd⟩ := Option.map_eq_some_iff.mp h
    cases hd
    exact hentries rest es after hread
  · next rest =>
    obtain ⟨⟨ds, after⟩, hread, hd⟩ := Option.map_eq_some_iff.mp h
    cases hd
    exact .list (helements rest ds after hread)
  · obtain ⟨⟨s, after⟩, -, hd⟩ := Option.map_eq_some_iff.mp h
    cases hd
    exact .simple (by simp) (by simp)
  · cases h
    exact .simple (by simp) (by simp)
  · cases h
  · cases h
    exact isKeyed_bare _

/-- What is read in so many steps holds each key once. -/
structure ReadsKeyed (steps : Nat) : Prop where
  value : ∀ cs d after, value? steps cs = some (d, after) → IsKeyed d
  elements : ∀ cs ds after, elements? steps cs = some (ds, after) → ∀ d ∈ ds, IsKeyed d
  entries : ∀ done cs es after, entries? steps done cs = some (es, after) →
    IsKeyed (.table done) → IsKeyed (.table es)

theorem readsKeyed_zero : ReadsKeyed 0 where
  value cs d after h := by
    rw [value?] at h
    cases h
  elements cs ds after h := by
    unfold elements? at h
    split at h
    · cases h
      exact List.forall_mem_nil _
    · cases h
    · next hsteps _ => cases hsteps
  entries done cs es after h hdone := by
    unfold entries? at h
    split at h
    · cases h
      exact hdone
    · cases h
    · next hsteps _ => cases hsteps

theorem ReadsKeyed.succ {steps : Nat} (ih : ReadsKeyed steps) : ReadsKeyed (steps + 1) where
  value cs d after h := by
    rw [value?] at h
    obtain ⟨⟨d', after'⟩, hcore, hd⟩ := Option.bind_eq_some_iff.mp h
    cases hd
    exact isKeyed_of_core? ih.elements
      (fun cs es after hread => ih.entries [] cs es after hread .empty) hcore
  elements cs ds after h := by
    unfold elements? at h
    split at h
    · cases h
      exact List.forall_mem_nil _
    · cases h
    · next hsteps _ =>
      cases hsteps
      obtain ⟨⟨d, after'⟩, hvalue, h⟩ := Option.bind_eq_some_iff.mp h
      have hd := ih.value _ d after' hvalue
      dsimp only at h
      split at h
      · obtain ⟨⟨rest, after'⟩, hrest, h⟩ := Option.bind_eq_some_iff.mp h
        cases h
        exact List.forall_mem_cons.mpr ⟨hd, ih.elements _ rest _ hrest⟩
      · cases h
        exact List.forall_mem_cons.mpr ⟨hd, List.forall_mem_nil _⟩
      · cases h
  entries done cs es after h hdone := by
    unfold entries? at h
    split at h
    · cases h
      exact hdone
    · cases h
    · next hsteps _ =>
      cases hsteps
      obtain ⟨⟨key, cs'⟩, -, h⟩ := Option.bind_eq_some_iff.mp h
      dsimp only at h
      split at h
      · obtain ⟨⟨d, after'⟩, hvalue, h⟩ := Option.bind_eq_some_iff.mp h
        have hput : ∀ key, IsKeyed (.table (Store.Table.put key d _)) := fun key =>
          (ih.value _ d after' hvalue).put hdone
        dsimp only at h
        split at h
        · exact ih.entries _ _ es after h (hput key)
        · cases h
          exact hput key
        · cases h
      · cases h

theorem readsKeyed : ∀ steps, ReadsKeyed steps
  | 0 => readsKeyed_zero
  | steps + 1 => (readsKeyed steps).succ

/-- **The data of a variable hold each key once.** -/
theorem isKeyed_valueOf (s : String) : IsKeyed (valueOf s) := by
  rw [valueOf]
  split
  · next d hvalue => exact (readsKeyed _).value _ d [] hvalue
  · exact .simple (by simp) (by simp)

/-! ## Looks -/

/-- The texts that are taken for something else by their looks. -/
inductive Looks (s : String) : Prop
  | yes (h : s = "true")
  | no (h : s = "false")
  | whole {n : Int} (h : whole? s.toList = some n)
  | decimal {x : Decimal.Spelling} (hpoint : '.' ∈ s.toList)
    (h : Decimal.Spelling.ofChars? s.toList = some x)
  | char {c : Char} (h : s.toList = ['\x27', c, '\x27'])
  | quoted {rest t after : List Char} (h : s.toList = '"' :: rest)
    (hquoted : quoted? rest = some (t, after)) (hafter : skipSpaces after = [])
  | list {rest after : List Char} {ds : List Datum} (h : s.toList = '[' :: rest)
    (helements : elements? (2 * s.length + 1) rest = some (ds, after)) (hafter : skipSpaces after = [])
  | table {rest after : List Char} {es : List (String × Datum)} (h : s.toList = '\x7b' :: rest)
    (hentries : entries? (2 * s.length + 1) [] rest = some (es, after))
    (hafter : skipSpaces after = [])

/-- The characters that numbers are spelled with. -/
def isNumeral (c : Char) : Bool := (Text.digit? c).isSome || "+-.eE".toList.contains c

theorem isNumeral_of_digit? {c : Char} {n : Nat} (h : Text.digit? c = some n) : isNumeral c = true := by
  rw [isNumeral, h]
  rfl

theorem isNumeral_of_digitsFrom {limit n : Nat} : ∀ {v : Nat} {cs : List Char},
    Text.digitsFrom limit v cs = .ok n → ∀ c ∈ cs, isNumeral c = true
  | v, c :: rest, h => by
    rw [Text.digitsFrom] at h
    split at h
    · cases h
    · next d hd =>
      split at h
      · exact List.forall_mem_cons.mpr ⟨isNumeral_of_digit? hd, isNumeral_of_digitsFrom h⟩
      · cases h
  | _, [], _ => List.forall_mem_nil _

theorem isNumeral_of_readNat {limit n : Nat} {cs : List Char} (h : Text.readNat limit cs = .ok n) :
    ∀ c ∈ cs, isNumeral c = true := by
  unfold Text.readNat at h
  split at h
  · cases h
  · cases h
  · cases h
  · exact List.forall_mem_cons.mpr ⟨rfl, isNumeral_of_digitsFrom h⟩
  · exact isNumeral_of_digitsFrom h

theorem isNumeral_of_whole? {n : Int} (h : whole? cs = some n) : ∀ c ∈ cs, isNumeral c = true := by
  unfold whole? at h
  split at h
  · next hread => exact isNumeral_of_readNat hread
  · split at h
    · split at h
      · next hread => exact List.forall_mem_cons.mpr ⟨rfl, isNumeral_of_readNat hread⟩
      · cases h
    · cases h

section

open Decimal.Spelling

theorem isNumeral_of_digits : ∀ {cs : List Char}, (∀ c ∈ (digits cs).2, isNumeral c = true) →
    ∀ c ∈ cs, isNumeral c = true
  | [], _ => List.forall_mem_nil _
  | c :: rest, h => by
    rw [digits] at h
    split at h
    · next d hd =>
      exact List.forall_mem_cons.mpr ⟨isNumeral_of_digit? hd, isNumeral_of_digits h⟩
    · exact h

theorem isNumeral_of_sign (h : ∀ c ∈ (sign cs).2, isNumeral c = true) :
    ∀ c ∈ cs, isNumeral c = true := by
  unfold sign at h
  split at h
  · exact List.forall_mem_cons.mpr ⟨rfl, h⟩
  · exact List.forall_mem_cons.mpr ⟨rfl, h⟩
  · exact h

theorem isNumeral_of_fraction (h : ∀ c ∈ (fraction cs).2, isNumeral c = true) :
    ∀ c ∈ cs, isNumeral c = true := by
  unfold fraction at h
  split at h
  · exact List.forall_mem_cons.mpr ⟨rfl, isNumeral_of_digits h⟩
  · exact h

theorem isNumeral_of_exponent? {e : Int} (h : exponent? cs = some e) :
    ∀ c ∈ cs, isNumeral c = true := by
  unfold exponent? at h
  split at h
  · exact List.forall_mem_nil _
  · next c rest =>
    split at h
    · next hc =>
      refine List.forall_mem_cons.mpr ⟨by rcases hc with rfl | rfl <;> rfl, isNumeral_of_sign ?_⟩
      refine isNumeral_of_digits ?_
      dsimp only at h
      split at h
      · cases h
      · next hdigits =>
        rw [hdigits]
        exact List.forall_mem_nil _
      · cases h
    · cases h

theorem isNumeral_of_ofChars? {x : Decimal.Spelling} (h : ofChars? cs = some x) :
    ∀ c ∈ cs, isNumeral c = true := by
  obtain ⟨e, he, -⟩ := Option.bind_eq_some_iff.mp h
  exact isNumeral_of_sign (isNumeral_of_digits (isNumeral_of_fraction (isNumeral_of_exponent? he)))

end

theorem endsValue_of_isNumeral {c : Char} (h : isNumeral c = true) : endsValue c = false := by
  refine Bool.eq_false_iff.mpr fun hends => ?_
  have hall : ∀ c ∈ [',', '\x7b', '\x7d', '[', ']'], isNumeral c = false :=
    Text.forall_mem_of_all (by decide)
  rw [hall c (List.contains_iff_mem.mp hends)] at h
  cases h

/-! ## Texts without blanks around them -/

theorem isBlank_of_isSpace {c : Char} (h : isSpace c = true) : Text.isBlank c = true := by
  simp only [isSpace, Bool.or_eq_true, decide_eq_true_eq] at h
  rcases h with (((rfl | rfl) | rfl) | rfl) | h
  · rfl
  · rfl
  · rfl
  · rfl
  · simp [Text.isBlank, h]

theorem skipSpaces_of_trimChars (h : Text.trimChars cs = cs) : skipSpaces cs = cs := by
  cases cs with
  | nil => rfl
  | cons c rest =>
    have hshown := Text.not_isBlank_head h
    refine List.dropWhile_cons_of_neg fun hspace => ?_
    rw [isBlank_of_isSpace hspace] at hshown
    cases hshown

/-- Blanks alone are not the end of a text that ends in a character that shows. -/
theorem eq_nil_of_skipSpaces (h : Text.trimChars cs = cs) (hafter : after <:+ cs)
    (hskip : skipSpaces after = []) : after = [] := by
  rcases List.eq_nil_or_concat after with hnil | ⟨front, z, rfl⟩
  · exact hnil
  · obtain ⟨before, rfl⟩ := hafter
    rw [List.concat_eq_append, ← List.append_assoc] at h
    have hspace : isSpace z = true :=
      List.dropWhile_eq_nil_iff.mp hskip z (by simp)
    have hshown := Text.not_isBlank_last h
    rw [isBlank_of_isSpace hspace] at hshown
    cases hshown

/-- A text is taken for what is read at its front if that is all of it. -/
theorem valueOf_eq {s : String} (h : Text.trimChars s.toList = s.toList) :
    valueOf s =
      match core? (2 * s.length + 1) s.toList with
      | some (d, after) => if skipSpaces after = [] then d else .text s
      | none => .text s := by
  rw [valueOf, value?, skipSpaces_of_trimChars h]
  cases core? (2 * s.length + 1) s.toList with
  | none => rfl
  | some read =>
    obtain ⟨d, after⟩ := read
    simp only [Option.bind_eq_bind, Option.bind_some]
    cases skipSpaces after <;> rfl

theorem core?_of_isNumeral (steps : Nat) (h : ∀ c ∈ cs, isNumeral c = true) :
    core? steps cs = some (bare cs, []) := by
  have hfirst : ∀ {c : Char} {rest : List Char}, isNumeral c = false → cs = c :: rest → False := by
    rintro c rest hc rfl
    rw [h c List.mem_cons_self] at hc
    cases hc
  have hall : ∀ c ∈ cs, (!endsValue c) = true := fun c hc => by
    rw [endsValue_of_isNumeral (h c hc)]
    rfl
  rw [core?.eq_8 steps cs (fun _ => hfirst rfl) (fun _ => hfirst rfl) (fun _ => hfirst rfl)
    (fun _ => hfirst rfl) (fun _ => hfirst rfl) (fun _ _ => hfirst rfl) (fun _ => hfirst rfl),
    List.takeWhile_eq_self_iff.mpr hall, List.dropWhile_eq_nil_iff.mpr hall]

/-- **A text that looks like nothing else is taken for itself.** -/
theorem valueOf_eq_text {s : String} (htrim : Text.trimChars s.toList = s.toList) (h : ¬Looks s) :
    valueOf s = .text s := by
  rw [valueOf_eq htrim]
  cases hcore : core? (2 * s.length + 1) s.toList with
  | none => rfl
  | some read =>
    obtain ⟨d, after⟩ := read
    refine ite_eq_right_iff.mpr fun hafter => ?_
    generalize hcs : s.toList = cs at hcore
    rw [hcs] at htrim
    unfold core? at hcore
    split at hcore
    · cases hcore
      rw [eq_nil_of_skipSpaces htrim (List.suffix_append ['t', 'r', 'u', 'e'] after) hafter] at hcs
      exact absurd (.yes (String.toList_inj.mp hcs)) h
    · cases hcore
      rw [eq_nil_of_skipSpaces htrim (List.suffix_append ['f', 'a', 'l', 's', 'e'] after) hafter]
        at hcs
      exact absurd (.no (String.toList_inj.mp hcs)) h
    · obtain ⟨⟨es, after⟩, hentries, hd⟩ := Option.map_eq_some_iff.mp hcore
      cases hd
      exact absurd (.table hcs hentries hafter) h
    · obtain ⟨⟨ds, after⟩, helements, hd⟩ := Option.map_eq_some_iff.mp hcore
      cases hd
      exact absurd (.list hcs helements hafter) h
    · obtain ⟨⟨t, after⟩, hquoted, hd⟩ := Option.map_eq_some_iff.mp hcore
      cases hd
      exact absurd (.quoted hcs hquoted hafter) h
    · next c rest =>
      cases hcore
      rw [eq_nil_of_skipSpaces htrim (List.suffix_append ['\x27', c, '\x27'] after) hafter] at hcs
      exact absurd (.char hcs) h
    · cases hcore
    · cases hcore
      have hnone := eq_nil_of_skipSpaces htrim (List.dropWhile_suffix _) hafter
      rw [List.takeWhile_eq_self_iff.mpr (List.dropWhile_eq_nil_iff.mp hnone), bare, htrim]
      split
      · next x hx =>
        split at hx
        · next hpoint => exact absurd (.decimal (hcs ▸ hpoint) (hcs ▸ hx)) h
        · cases hx
      · split
        · next n hn => exact absurd (.whole (hcs ▸ hn)) h
        · rw [← hcs, String.ofList_toList]

/-! ## Reading what has looks -/

/-- What a number stands for is no text. -/
theorem readText_bare (htrim : Text.trimChars cs = cs)
    (h : (∃ n, whole? cs = some n) ∨ '.' ∈ cs ∧ ∃ x, Decimal.Spelling.ofChars? cs = some x) (t : String) :
    readText (bare cs) ≠ .ok t := by
  rw [bare, htrim]
  split
  · next x _ => cases x <;> rintro ⟨⟩
  · next hnone =>
    split
    · rintro ⟨⟩
    · next hwhole =>
      rcases h with ⟨n, hn⟩ | ⟨hpoint, x, hx⟩
      · rw [hwhole] at hn
        cases hn
      · rw [if_pos hpoint, hx] at hnone
        cases hnone

theorem exists_of_quoted?_bind {x : Char} {rest t after : List Char}
    (h : (do
      let (s, after) ← quoted? rest
      some (x :: s, after)) = some (t, after)) : ∃ s, quoted? rest = some (s, after) ∧ t = x :: s := by
  obtain ⟨⟨s, after'⟩, hs, ht⟩ := Option.bind_eq_some_iff.mp h
  cases ht
  exact ⟨s, hs, rfl⟩

/-- What stands in quotes is shorter than what is read. -/
theorem length_of_quoted? {cs t after : List Char} (h : quoted? cs = some (t, after)) :
    t.length < cs.length := by
  fun_induction quoted? cs generalizing t after with
  | case1 => cases h
  | case2 =>
    cases h
    exact Nat.zero_lt_succ _
  | case3 a b c d rest ih | case4 a b c d e f g k rest ih | case5 c rest hu hU ih =>
    obtain ⟨x, -, h⟩ := Option.bind_eq_some_iff.mp h
    obtain ⟨s, hs, rfl⟩ := exists_of_quoted?_bind h
    have hlength := ih hs
    simp only [List.length_cons]
    omega
  | case6 c rest hquote hu hU hc hplain ih =>
    obtain ⟨s, hs, rfl⟩ := exists_of_quoted?_bind h
    exact Nat.succ_lt_succ (ih hs)
  | case7 => cases h

theorem valueOf_of_core? {s : String} (htrim : Text.trimChars s.toList = s.toList)
    (h : core? (2 * s.length + 1) s.toList = some (d, after)) (hafter : skipSpaces after = []) :
    valueOf s = d := by
  rw [valueOf_eq htrim, h]
  exact if_pos hafter

/-- What a text with looks is taken for is read as another text, or as none. -/
theorem readText_valueOf_ne {s : String} (htrim : Text.trimChars s.toList = s.toList) (h : Looks s) :
    readText (valueOf s) ≠ .ok s := by
  cases h with
  | yes h =>
    have hcore : core? (2 * s.length + 1) s.toList = some (.bool true, []) := by
      rw [h]
      exact core?.eq_1 _ []
    rw [valueOf_of_core? htrim hcore rfl]
    rintro ⟨⟩
  | no h =>
    have hcore : core? (2 * s.length + 1) s.toList = some (.bool false, []) := by
      rw [h]
      exact core?.eq_2 _ []
    rw [valueOf_of_core? htrim hcore rfl]
    rintro ⟨⟩
  | whole h =>
    rw [valueOf_of_core? htrim (core?_of_isNumeral _ (isNumeral_of_whole? h)) rfl]
    exact readText_bare htrim (.inl ⟨_, h⟩) s
  | decimal hpoint h =>
    rw [valueOf_of_core? htrim (core?_of_isNumeral _ (isNumeral_of_ofChars? h)) rfl]
    exact readText_bare htrim (.inr ⟨hpoint, _, h⟩) s
  | @char c h =>
    have hcore : core? (2 * s.length + 1) s.toList = some (.char c, []) := by
      rw [h]
      exact core?.eq_6 _ c []
    rw [valueOf_of_core? htrim hcore rfl]
    intro hread
    rw [← Except.ok.inj hread] at h
    simp at h
  | @quoted rest t after h hquoted hafter =>
    have hcore : core? (2 * s.length + 1) s.toList = some (.text (String.ofList t), after) := by
      rw [h, core?.eq_5, hquoted]
      rfl
    rw [valueOf_of_core? htrim hcore hafter]
    intro hread
    have hlength := length_of_quoted? hquoted
    rw [← Except.ok.inj hread, String.toList_ofList] at h
    rw [h, List.length_cons] at hlength
    omega
  | @list rest after ds h helements hafter =>
    have hcore : core? (2 * s.length + 1) s.toList = some (.list ds, after) := by
      rw [h, core?.eq_4, helements]
      rfl
    rw [valueOf_of_core? htrim hcore hafter]
    rintro ⟨⟩
  | @table rest after es h hentries hafter =>
    have hcore : core? (2 * s.length + 1) s.toList = some (.table es, after) := by
      rw [h, core?.eq_3, hentries]
      rfl
    rw [valueOf_of_core? htrim hcore hafter]
    rintro ⟨⟩

/-- A text that begins like no number, quotation, list or table is taken for itself, unless it is a
truth value. -/
theorem not_looks_of_head {s : String} {c : Char} {rest : List Char} (hcs : s.toList = c :: rest)
    (hnumeral : isNumeral c = false) (hmark : c ∉ ['"', '\x27', '[', '\x7b'])
    (htrue : s ≠ "true") (hfalse : s ≠ "false") : ¬Looks s := by
  have hnumber : ¬∀ c ∈ s.toList, isNumeral c = true := by
    intro hall
    rw [hall c (hcs ▸ List.mem_cons_self)] at hnumeral
    cases hnumeral
  have hfirst : ∀ {d : Char} {after : List Char}, s.toList = d :: after → d = c := fun h =>
    (List.cons.inj (h.symm.trans hcs)).1
  intro h
  cases h with
  | yes h => exact htrue h
  | no h => exact hfalse h
  | whole h => exact hnumber (isNumeral_of_whole? h)
  | decimal _ h => exact hnumber (isNumeral_of_ofChars? h)
  | char h => exact hmark (by simp [← hfirst h])
  | quoted h _ _ => exact hmark (by simp [← hfirst h])
  | list h _ _ => exact hmark (by simp [← hfirst h])
  | table h _ _ => exact hmark (by simp [← hfirst h])

/-- **What is read as it is written.** -/
theorem readText_valueOf_eq_ok_iff {s : String} (htrim : Text.trimChars s.toList = s.toList) :
    readText (valueOf s) = .ok s ↔ ¬Looks s := by
  constructor
  · exact fun h hlooks => readText_valueOf_ne htrim hlooks h
  · intro h
    rw [valueOf_eq_text htrim h]
    rfl

end AccessBroker.Environment
