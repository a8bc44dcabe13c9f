/-
Quoted text read back.

A character stands in quotes as itself, as one letter behind a backslash, or as
its number (`Spells`). Each of the three is read back, both by the cut to the
closing quote and by the reading of the inside, so a quoted text is read as the
text it was written from, whichever way each of its characters is spelled
(`inside?_quote`, `unquote?_inside`). The other
way round, what is read is the inside as it stands or shorter than it
(`eq_or_length_lt_of_unquote?`), since an escape is longer than what it stands
for.
-/
import AccessBroker.Json.Quoted
import AccessBroker.Json.Token
import AccessBroker.Proofs.Text.Number
import AccessBroker.Proofs.Text.Utf8

namespace AccessBroker.Json

open Text.Utf8 (encodeChars)

/-- A way for a character to stand in quotes. -/
inductive Spells (c : Char) : List Char → Prop where
  | letter {d : Char} (hd : shortEscape? d = some c) : Spells c ['\\', d]
  | number (h : c.toNat < 0x10000) : Spells c (unicodeEscape c.toNat)
  | itself (hlow : 0x20 ≤ c.toNat) (hquote : c ≠ '"') (hbackslash : c ≠ '\\') : Spells c [c]

theorem spells_escapeChar (c : Char) : Spells c (escapeChar c) := by
  unfold escapeChar
  split
  case h_8 hquote hbackslash _ _ _ _ _ =>
    split
    · next hcontrol => exact .number (by omega)
    · exact .itself (by omega) hquote hbackslash
  all_goals exact .letter rfl

/-- The bytes between the quotes of a text whose characters are spelled in some way. -/
def inside (g : Char → List Char) (s : String) : List UInt8 := encodeChars (s.toList.flatMap g)

/-! ## The inside -/

theorem hexFour?_hexDigit {n : Nat} (h : n < 0x10000) :
    hexFour? (hexDigit (n / 4096 % 16)) (hexDigit (n / 256 % 16)) (hexDigit (n / 16 % 16))
      (hexDigit (n % 16)) = some n := by
  have hdigit : ∀ m, Text.hexDigit? (hexDigit (m % 16)) = some (m % 16) := fun m =>
    Text.hexDigit?_digitChar _ (Nat.mod_lt m (by decide))
  simp only [hexFour?, hdigit, Option.bind_eq_bind, Option.bind_some, Option.some.injEq]
  omega

theorem Spells.unescape?_append {c : Char} {xs : List Char} (h : Spells c xs) (cs : List Char) :
    unescape? (xs ++ cs) = (unescape? cs).map (c :: ·) := by
  cases h with
  | @letter d hd =>
    have hu : d ≠ 'u' := by
      rintro rfl
      cases hd
    simp [unescape?, hu, hd]
  | number hnumber =>
    have hfour := hexFour?_hexDigit hnumber
    have hvalid := Text.Utf8.isValidChar_toNat c
    simp only [unicodeEscape, List.cons_append, List.nil_append, unescape?, hfour]
    rw [if_neg (by omega), if_neg (by omega), Char.ofNat_toNat]
  | itself hlow hquote hbackslash => simp [unescape?, hbackslash]

theorem unescape?_flatMap {g : Char → List Char} (hg : ∀ c, Spells c (g c)) :
    ∀ cs : List Char, unescape? (cs.flatMap g) = some cs
  | [] => by rw [List.flatMap_nil, unescape?]
  | c :: cs => by
    rw [List.flatMap_cons, (hg c).unescape?_append, unescape?_flatMap hg cs, Option.map_some]

/-- **A quoted text is read back.** -/
theorem unquote?_inside {g : Char → List Char} (hg : ∀ c, Spells c (g c)) (s : String) :
    unquote? (inside g s) = some s := by
  simp only [unquote?, inside, Text.Utf8.decodeChars?_encodeChars, Option.bind_eq_bind,
    Option.bind_some, unescape?_flatMap hg, Option.map_some, String.ofList_toList]

/-! ## The closing quote -/

theorem inside?_plain_append : ∀ {front bytes xs after : List UInt8},
    (∀ b ∈ front, 0x20 ≤ b.toNat ∧ b.toNat ≠ 0x22 ∧ b.toNat ≠ 0x5C) →
    Token.inside? bytes = some (xs, after) →
    Token.inside? (front ++ bytes) = some (front ++ xs, after)
  | [], _, _, _, _, h => h
  | b :: front, bytes, xs, after, hfront, h => by
    obtain ⟨hlow, hquote, hslash⟩ := hfront b List.mem_cons_self
    have hquote : b ≠ 0x22 := fun heq => hquote (congrArg UInt8.toNat heq)
    have hslash : b ≠ 0x5C := fun heq => hslash (congrArg UInt8.toNat heq)
    have ih := inside?_plain_append (fun a ha => hfront a (List.mem_cons_of_mem b ha)) h
    have hcontrol : 0x20 ≤ b := UInt8.le_iff_toNat_le.mpr hlow
    simp [Token.inside?, hslash, hcontrol, ih]

theorem encodeChar_hexDigit : ∀ n < 16,
    Text.Utf8.encodeChar (hexDigit n) = [UInt8.ofNat (hexDigit n).toNat] ∧
      Token.isHex (UInt8.ofNat (hexDigit n).toNat) = true := by
  decide

theorem isShortEscape_of_shortEscape? {c d : Char} (h : shortEscape? d = some c) :
    Text.Utf8.encodeChar d = [UInt8.ofNat d.toNat] ∧
      Token.isShortEscape (UInt8.ofNat d.toNat) = true := by
  unfold shortEscape? at h
  split at h
  all_goals first | exact ⟨rfl, rfl⟩ | cases h

theorem Spells.inside?_append {c : Char} {cs : List Char} (hspells : Spells c cs)
    {bytes xs after : List UInt8} (h : Token.inside? bytes = some (xs, after)) :
    Token.inside? (encodeChars cs ++ bytes) = some (encodeChars cs ++ xs, after) := by
  have hbackslash : Text.Utf8.encodeChar '\\' = [0x5C] := rfl
  cases hspells with
  | @letter d hd =>
    obtain ⟨hbyte, hshort⟩ := isShortEscape_of_shortEscape? hd
    have hu : UInt8.ofNat d.toNat ≠ 0x75 := by
      intro hu
      rw [hu] at hshort
      cases hshort
    rw [Text.Utf8.encodeChars_cons, Text.Utf8.encodeChars_cons, Text.Utf8.encodeChars_nil,
      hbackslash, hbyte]
    simp [Token.inside?, hu, hshort, h]
  | number _ =>
    obtain ⟨ha, ha'⟩ := encodeChar_hexDigit (c.toNat / 4096 % 16) (by omega)
    obtain ⟨hb, hb'⟩ := encodeChar_hexDigit (c.toNat / 256 % 16) (by omega)
    obtain ⟨hd, hd'⟩ := encodeChar_hexDigit (c.toNat / 16 % 16) (by omega)
    obtain ⟨he, he'⟩ := encodeChar_hexDigit (c.toNat % 16) (by omega)
    have hu : Text.Utf8.encodeChar 'u' = [0x75] := rfl
    simp only [unicodeEscape, Text.Utf8.encodeChars_cons, Text.Utf8.encodeChars_nil, hbackslash, hu,
      ha, hb, hd, he, List.append_nil, List.cons_append, List.nil_append]
    simp [Token.inside?, ha', hb', hd', he', h]
  | itself hlow hquote hslash =>
    rw [Text.Utf8.encodeChars_cons, Text.Utf8.encodeChars_nil, List.append_nil]
    refine inside?_plain_append (fun b hb => ?_) h
    have hquote' : c.toNat ≠ 0x22 := fun heq => hquote (Char.toNat_inj.mp heq)
    have hslash' : c.toNat ≠ 0x5C := fun heq => hslash (Char.toNat_inj.mp heq)
    rcases Text.Utf8.toNat_of_mem_encodeChar hb with ⟨heq, -⟩ | hhigh
    · omega
    · omega

/-- The cut is at the closing quote. -/
theorem inside?_quote {g : Char → List Char} (hg : ∀ c, Spells c (g c)) (s : String)
    (rest : List UInt8) :
    Token.inside? (inside g s ++ 0x22 :: rest) = some (inside g s, rest) := by
  unfold inside
  induction s.toList with
  | nil => rfl
  | cons c cs ih =>
    rw [List.flatMap_cons, Text.Utf8.encodeChars_append, List.append_assoc]
    exact (hg c).inside?_append ih

/-! ## What a quoted text may be read from -/

theorem unescape?_cons {c : Char} (hc : c ≠ '\\') (cs : List Char) :
    unescape? (c :: cs) = (unescape? cs).map (c :: ·) := by
  simp [unescape?, hc]

/-- An escape stands for one character. -/
theorem exists_of_unescape?_backslash {cs out : List Char} (h : unescape? ('\\' :: cs) = some out) :
    ∃ c escape rest tail, cs = escape ++ rest ∧ escape ≠ [] ∧ unescape? rest = some tail ∧
      out = c :: tail := by
  rw [unescape?.eq_def] at h
  split at h
  · next heq => cases heq
  · next a b c d rest heq =>
    obtain ⟨-, rfl⟩ := List.cons.inj heq
    split at h
    · cases h
    split at h
    · split at h
      · next rest' =>
        split at h
        · cases h
        split at h
        · obtain ⟨tail, htail, rfl⟩ := Option.map_eq_some_iff.mp h
          exact ⟨_, 'u' :: a :: b :: c :: d :: '\\' :: 'u' :: _ :: _ :: _ :: [_], rest', tail, rfl,
            List.cons_ne_nil _ _, htail, rfl⟩
        · cases h
      · cases h
    split at h
    · cases h
    · obtain ⟨tail, htail, rfl⟩ := Option.map_eq_some_iff.mp h
      exact ⟨_, 'u' :: a :: b :: c :: [d], rest, tail, rfl, List.cons_ne_nil _ _, htail, rfl⟩
  · next c rest _ heq =>
    obtain ⟨-, rfl⟩ := List.cons.inj heq
    split at h
    · obtain ⟨tail, htail, rfl⟩ := Option.map_eq_some_iff.mp h
      exact ⟨_, [c], rest, tail, rfl, List.cons_ne_nil _ _, htail, rfl⟩
    · cases h
  · cases h
  · next c rest _ hshort hlast heq =>
    cases heq
    cases cs with
    | nil => exact absurd rfl (hlast rfl)
    | cons c cs => exact absurd rfl (hshort c cs rfl)

theorem unescape?_of_not_mem : ∀ {cs : List Char}, '\\' ∉ cs → unescape? cs = some cs
  | [], _ => by rw [unescape?]
  | c :: cs, h => by
    rw [List.mem_cons, not_or] at h
    rw [unescape?_cons (Ne.symm h.1), unescape?_of_not_mem h.2, Option.map_some]

/-- What is read is what is written, or shorter. -/
theorem eq_or_length_lt_of_unescape? {cs out : List Char} (h : unescape? cs = some out) :
    out = cs ∨ out.length < cs.length := by
  induction hn : cs.length using Nat.strongRecOn generalizing cs out with
  | ind n ih =>
    cases cs with
    | nil =>
      rw [unescape?] at h
      cases h
      exact .inl rfl
    | cons c cs =>
      rw [List.length_cons] at hn
      by_cases hc : c = '\\'
      · subst hc
        obtain ⟨c, escape, rest, tail, rfl, hescape, htail, rfl⟩ := exists_of_unescape?_backslash h
        have hpos := List.length_pos_iff.mpr hescape
        rw [List.length_append] at hn
        have htail := ih rest.length (by omega) htail rfl
        right
        rw [List.length_cons]
        rcases htail with rfl | hlt <;> omega
      · rw [unescape?_cons hc] at h
        obtain ⟨tail, htail, rfl⟩ := Option.map_eq_some_iff.mp h
        rcases ih cs.length (by omega) htail rfl with rfl | hlt
        · exact .inl rfl
        · right
          rw [List.length_cons]
          omega

/-- Behind the last backslash all stands for itself, apart from what the escape that it begins
takes of it. -/
theorem exists_of_unescape?_append {cs ds out : List Char} (hds : '\\' ∉ ds)
    (h : unescape? (cs ++ ds) = some out) :
    ∃ front n, out = front ++ ds.drop n ∧ front.length ≤ cs.length := by
  induction hn : cs.length using Nat.strongRecOn generalizing cs out with
  | ind n ih =>
    cases cs with
    | nil =>
      rw [List.nil_append, unescape?_of_not_mem hds] at h
      cases h
      exact ⟨[], 0, rfl, Nat.zero_le _⟩
    | cons c cs =>
      rw [List.length_cons] at hn
      rw [List.cons_append] at h
      by_cases hc : c = '\\'
      · subst hc
        obtain ⟨c, escape, rest, tail, hsplit, hescape, htail, rfl⟩ :=
          exists_of_unescape?_backslash h
        rcases List.append_eq_append_iff.mp hsplit with ⟨more, rfl, rfl⟩ | ⟨more, rfl, rfl⟩
        -- The escape reaches into what stands behind.
        · rw [List.mem_append, not_or] at hds
          rw [unescape?_of_not_mem hds.2] at htail
          cases htail
          exact ⟨[c], more.length, by rw [List.drop_left]; rfl, by rw [List.length_singleton]; omega⟩
        · have hpos := List.length_pos_iff.mpr hescape
          rw [List.length_append] at hn
          obtain ⟨front, m, rfl, hfront⟩ := ih more.length (by omega) htail rfl
          exact ⟨c :: front, m, rfl, by rw [List.length_cons]; omega⟩
      · rw [unescape?_cons hc] at h
        obtain ⟨tail, htail, rfl⟩ := Option.map_eq_some_iff.mp h
        obtain ⟨front, m, rfl, hfront⟩ := ih cs.length (by omega) htail rfl
        exact ⟨c :: front, m, rfl, by rw [List.length_cons]; omega⟩

/-- What is read is the text of the bytes, or shorter than they are. -/
theorem eq_or_length_lt_of_unquote? {bytes : List UInt8} {s : String} (h : unquote? bytes = some s) :
    bytes = encodeChars s.toList ∨ s.toList.length < bytes.length := by
  obtain ⟨cs, hcs, hread⟩ := Option.bind_eq_some_iff.mp h
  obtain ⟨out, hout, rfl⟩ := Option.map_eq_some_iff.mp hread
  rw [String.toList_ofList, Text.Utf8.encodeChars_of_decodeChars? hcs]
  rcases eq_or_length_lt_of_unescape? hout with rfl | hlt
  · exact .inl rfl
  · exact .inr (Nat.lt_of_lt_of_le hlt (Text.Utf8.length_le_length_encodeChars cs))

theorem length_le_of_unquote? {bytes : List UInt8} {s : String} (h : unquote? bytes = some s) :
    s.toList.length ≤ bytes.length := by
  rcases eq_or_length_lt_of_unquote? h with rfl | hlt
  · exact Text.Utf8.length_le_length_encodeChars _
  · exact Nat.le_of_lt hlt

/-- What is read ends in the characters of plain ASCII that stand at the end, apart from those that
an escape takes. -/
theorem exists_of_unquote?_append {front : List UInt8} {ds : List Char}
    (hascii : ∀ d ∈ ds, d.toNat < 0x80) (hds : '\\' ∉ ds) {s : String}
    (h : unquote? (front ++ encodeChars ds) = some s) :
    ∃ cs n, s.toList = cs ++ ds.drop n ∧ cs.length ≤ front.length := by
  obtain ⟨cs, hcs, hread⟩ := Option.bind_eq_some_iff.mp h
  obtain ⟨out, hout, rfl⟩ := Option.map_eq_some_iff.mp hread
  obtain ⟨cs', rfl, rfl⟩ := Text.Utf8.exists_of_encodeChars_eq_append hascii
    (Text.Utf8.encodeChars_of_decodeChars? hcs).symm
  obtain ⟨read, n, rfl, hle⟩ := exists_of_unescape?_append hds hout
  rw [String.toList_ofList]
  exact ⟨read, n, rfl, Nat.le_trans hle (Text.Utf8.length_le_length_encodeChars cs')⟩

end AccessBroker.Json
