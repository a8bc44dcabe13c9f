/-
Cookies read back from the pairs they are sent as.

A name and a value are sent spelled, so that nothing in them ends a pair, a name
or a line of cookies, and nothing is trimmed away (`isSafe_of_mem`). The pair is
therefore found whole in the line that sets the cookie (`pairOf_encoded`), and a
header that holds it and nothing else gives the name its value
(`get?_ofHeaders_pair`).
-/
import AccessBroker.Cookie.Jar
import AccessBroker.Cookie.Settings
import AccessBroker.Proofs.Text.Blank
import AccessBroker.Proofs.Text.Percent
import AccessBroker.Proofs.Text.Split

namespace AccessBroker.Cookie

open Text.Utf8 (encodeChars)

/-! ## What is sent -/

/-- A character that shows, is plain ASCII, and ends neither a name nor a pair. -/
structure IsSafe (c : Char) : Prop where
  low : 0x20 < c.toNat
  high : c.toNat < 0x7F
  not_equals : c ≠ '='
  not_semicolon : c ≠ ';'

theorem isSafe_spellChars : ∀ c ∈ Text.Percent.spellChars,
    0x20 < c.toNat ∧ c.toNat < 0x7F ∧ c ≠ '=' ∧ c ≠ ';' := by
  have hall : (Text.Percent.spellChars.all fun c =>
      decide (0x20 < c.toNat ∧ c.toNat < 0x7F ∧ c ≠ '=' ∧ c ≠ ';')) = true := by decide
  intro c hc
  exact of_decide_eq_true (List.all_eq_true.mp hall c hc)

theorem isSafe_of_mem {cs : List Char} {c : Char}
    (h : c ∈ Text.Percent.encodeChars inCookie cs) : IsSafe c := by
  rcases Text.Percent.mem_encodeChars h with hspell | ⟨-, houtside, hset⟩
  · obtain ⟨hlow, hhigh, hequals, hsemicolon⟩ := isSafe_spellChars c hspell
    exact ⟨hlow, hhigh, hequals, hsemicolon⟩
  · simp only [Text.Percent.isOutside, Bool.or_eq_false_iff, decide_eq_false_iff_not] at houtside
    have hspace : c.toNat ≠ 0x20 := by
      intro heq
      have hc : c = ' ' := Char.toNat_inj.mp heq
      rw [hc] at hset
      exact absurd hset (by decide)
    refine ⟨by omega, by omega, ?_, ?_⟩
    · rintro rfl
      exact absurd hset (by decide)
    · rintro rfl
      exact absurd hset (by decide)

theorem IsSafe.isBlank {c : Char} (h : IsSafe c) : Text.isBlank c = false := by
  have hlow := h.low
  have hhigh := h.high
  simp only [Text.isBlank, Bool.or_eq_false_iff, Bool.and_eq_false_iff, decide_eq_false_iff_not,
    beq_eq_false_iff_ne]
  omega

/-- A name and a value as they are sent. -/
def sent (name value : String) : List Char :=
  Text.Percent.encodeChars inCookie name.toList ++
    '=' :: Text.Percent.encodeChars inCookie value.toList

theorem visible_of_mem_sent {name value : String} {c : Char} (h : c ∈ sent name value) :
    0x20 < c.toNat ∧ c.toNat < 0x7F ∧ c ≠ ';' := by
  rw [sent, List.mem_append, List.mem_cons] at h
  rcases h with h | rfl | h
  · exact ⟨(isSafe_of_mem h).low, (isSafe_of_mem h).high, (isSafe_of_mem h).not_semicolon⟩
  · decide
  · exact ⟨(isSafe_of_mem h).low, (isSafe_of_mem h).high, (isSafe_of_mem h).not_semicolon⟩

/-! ## The line that sets a cookie -/

/-- The pair of a name and a value in a line that sets a cookie: all before the first semicolon. -/
def pairOf (line : String) : String := String.ofList (line.toList.takeWhile (· ≠ ';'))

/-- The pair comes first in the line, and another attribute follows. -/
theorem exists_encoded_eq (s : Settings) (value : String) :
    ∃ rest, (s.encoded value).toList = sent s.name value ++ ';' :: rest := by
  obtain ⟨a, as, hattributes⟩ : ∃ a as, s.attributes = a :: as := ⟨"HttpOnly", _, rfl⟩
  refine ⟨' ' :: ("; ".intercalate (a :: as)).toList, ?_⟩
  rw [Settings.encoded, Settings.line, hattributes, String.intercalate_cons_cons]
  simp [sent, Text.Percent.encode]

/-- The pair is found whole in the line. -/
theorem pairOf_encoded (s : Settings) (value : String) :
    (pairOf (s.encoded value)).toList = sent s.name value := by
  obtain ⟨rest, hline⟩ := exists_encoded_eq s value
  have hkept : ∀ c ∈ sent s.name value, decide (c ≠ ';') = true := fun c hc =>
    decide_eq_true (visible_of_mem_sent hc).2.2
  rw [pairOf, String.toList_ofList, hline, List.takeWhile_append_of_pos hkept]
  simp

/-- The value that a line gives its cookie, read from its spelling. -/
def valueOf? (line : String) : Option String :=
  (Text.splitFirst? '=' (pairOf line).toList).bind fun parts =>
    Text.Percent.decode? (String.ofList parts.2)

/-- A value is read back from the line that sets it, whatever name it has. -/
theorem valueOf?_encoded (s : Settings) (value : String) :
    valueOf? (s.encoded value) = some value := by
  have hsplit : Text.splitFirst? '=' (sent s.name value) =
      some (Text.Percent.encodeChars inCookie s.name.toList,
        Text.Percent.encodeChars inCookie value.toList) :=
    Text.splitFirst?_append _ fun hmem => (isSafe_of_mem hmem).not_equals rfl
  rw [valueOf?, pairOf_encoded, hsplit, Option.bind_some]
  exact Text.Percent.decode?_encode (by decide) value

/-! ## The header that sends it back -/

theorem visible?_encodeChars {cs : List Char} (h : ∀ c ∈ cs, 0x20 < c.toNat ∧ c.toNat < 0x7F) :
    visible? (encodeChars cs) = some cs := by
  have hascii : ∀ c ∈ cs, c.toNat < 0x80 := fun c hc => Nat.lt_trans (h c hc).2 (by decide)
  rw [Text.Utf8.encodeChars_ascii hascii, visible?, if_pos, List.map_map]
  · congr 1
    conv_rhs => rw [← List.map_id cs]
    refine List.map_congr_left fun c hc => ?_
    have hc := h c hc
    rw [Function.comp_apply, Text.Utf8.toNat_ofNat_of_lt (by omega), Char.ofNat_toNat, id]
  · rw [List.all_eq_true]
    intro b hb
    obtain ⟨c, hc, rfl⟩ := List.mem_map.mp hb
    have hc := h c hc
    have hnat := Text.Utf8.toNat_ofNat_of_lt (show c.toNat < 256 by omega)
    simp only [isVisible, Bool.or_eq_true, Bool.and_eq_true, decide_eq_true_eq,
      UInt8.le_iff_toNat_le, UInt8.lt_iff_toNat_lt, hnat, UInt8.reduceToNat]
    omega

theorem decode?_sent (s : String) :
    decode? (Text.Percent.encodeChars inCookie s.toList) = some s := by
  rw [decode?, Text.trimChars_of_all fun c hc => (isSafe_of_mem hc).isBlank]
  exact Text.Percent.decode?_encode (by decide) s

theorem pair?_sent {name : String} (hname : name ≠ "") (value : String) :
    pair? (sent name value) = some (name, value) := by
  have hsplit : Text.splitFirst? '=' (sent name value) =
      some (Text.Percent.encodeChars inCookie name.toList,
        Text.Percent.encodeChars inCookie value.toList) :=
    Text.splitFirst?_append _ fun hmem => (isSafe_of_mem hmem).not_equals rfl
  have hshown : (Text.trimChars (Text.Percent.encodeChars inCookie name.toList)).isEmpty = false := by
    rw [Text.trimChars_of_all fun c hc => (isSafe_of_mem hc).isBlank, List.isEmpty_eq_false_iff]
    exact Text.Percent.encodeChars_ne_nil (by simpa using hname)
  simp only [pair?, hsplit, Option.bind_eq_bind, Option.bind_some, hshown, decode?_sent]
  rfl

/-- **A pair that is sent back gives the name its value.** -/
theorem get?_ofHeaders_pair {name : String} (hname : name ≠ "") (value : String) :
    (Jar.ofHeaders [encodeChars (sent name value)]).get? name = some value := by
  have hvisible : visible? (encodeChars (sent name value)) = some (sent name value) :=
    visible?_encodeChars fun c hc =>
      ⟨(visible_of_mem_sent hc).1, (visible_of_mem_sent hc).2.1⟩
  have hsplit : Text.splitAll ';' (sent name value) = [sent name value] :=
    Text.splitAll_of_not_mem fun hmem => (visible_of_mem_sent hmem).2.2 rfl
  have hpairs : pairs (encodeChars (sent name value)) = [(name, value)] := by
    simp [pairs, hvisible, hsplit, pair?_sent hname]
  rw [Jar.ofHeaders, List.flatMap_singleton, hpairs]
  exact Store.Table.get?_insert_self _ name value

end AccessBroker.Cookie
