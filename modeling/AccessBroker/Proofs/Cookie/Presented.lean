/-
Which cookies of a header find their way into the jar.

A part of a header names a cookie whatever bytes stand behind its equals sign
(`Gives`). The jar has the cookie only if the whole header is plain text and what
stands there can be read (`Keeps`); a part that names a cookie and is not kept
leaves no trace in the jar (`get?_ofHeaders_ne_none_iff`).
-/
import AccessBroker.Cookie.Jar
import AccessBroker.Proofs.Store.Table
import AccessBroker.Proofs.Text.Percent
import AccessBroker.Proofs.Text.Split

namespace AccessBroker.Cookie

open Text.Utf8 (encodeChars)

/-- The character with the number of a byte. -/
def character (b : UInt8) : Char := Char.ofNat b.toNat

/-- A part of a header gives a cookie some bytes for its value. -/
def Gives (name : String) (header value : List UInt8) : Prop :=
  ∃ part ∈ Text.splitAll 0x3B header, ∃ left,
    Text.splitFirst? 0x3D part = some (encodeChars left, value) ∧ decode? left = some name

/-- A header of plain text gives a cookie a value that can be read. -/
structure Keeps (name : String) (header value : List UInt8) (text : String) : Prop where
  named : name ≠ ""
  visible : header.all isVisible = true
  gives : Gives name header value
  reads : decode? (value.map character) = some text

/-! ## Bytes and characters -/

theorem toNat_character (b : UInt8) : (character b).toNat = b.toNat := by
  have hb := b.toNat_lt
  exact Text.Utf8.toNat_ofNat (.inl (by omega))

theorem character_injective : Function.Injective character := by
  intro a b h
  have hnat := congrArg Char.toNat h
  rw [toNat_character, toNat_character] at hnat
  exact UInt8.toNat_inj.mp hnat

theorem lt_of_isVisible {b : UInt8} (h : isVisible b = true) : b.toNat < 0x80 := by
  simp only [isVisible, Bool.or_eq_true, Bool.and_eq_true, decide_eq_true_eq,
    UInt8.lt_iff_toNat_lt] at h
  rcases h with ⟨-, h⟩ | rfl
  · exact Nat.lt_trans h (by decide)
  · decide

/-- Plain text is the same in bytes and in characters. -/
theorem encodeChars_map_character {bytes : List UInt8} (h : ∀ b ∈ bytes, isVisible b = true) :
    encodeChars (bytes.map character) = bytes := by
  rw [Text.Utf8.encodeChars_ascii, List.map_map]
  · conv_rhs => rw [← List.map_id bytes]
    refine List.map_congr_left fun b _ => ?_
    rw [Function.comp_apply, toNat_character, UInt8.ofNat_toNat, id]
  · intro c hc
    obtain ⟨b, hb, rfl⟩ := List.mem_map.mp hc
    rw [toNat_character]
    exact lt_of_isVisible (h b hb)

/-! ## Parts and pairs -/

theorem isEmpty_trimmed_iff {cs : List Char} {name : String} (h : decode? cs = some name) :
    (Text.trimChars cs).isEmpty = true ↔ name = "" := by
  constructor
  · intro hempty
    have hnothing : Text.Percent.decode? "" = some "" := by decide +kernel
    rw [decode?, List.isEmpty_iff.mp hempty, String.ofList_nil, hnothing] at h
    exact (Option.some.inj h).symm
  · rintro rfl
    exact List.isEmpty_iff.mpr (String.ofList_eq_empty_iff.mp (Text.Percent.eq_empty_of_decode? h))

theorem pair?_eq_some_iff {cs : List Char} {name value : String} :
    pair? cs = some (name, value) ↔ name ≠ "" ∧ ∃ left right,
      Text.splitFirst? '=' cs = some (left, right) ∧ decode? left = some name ∧
        decode? right = some value := by
  simp only [pair?, Option.bind_eq_bind, Option.bind_eq_some_iff, Prod.exists]
  constructor
  · rintro ⟨left, right, hsplit, h⟩
    split at h
    · cases h
    next hshown =>
    simp only [Option.bind_eq_some_iff, Option.some.injEq, Prod.mk.injEq] at h
    obtain ⟨name', hname, value', hvalue, rfl, rfl⟩ := h
    rw [isEmpty_trimmed_iff hname] at hshown
    exact ⟨hshown, left, right, hsplit, hname, hvalue⟩
  · rintro ⟨hne, left, right, hsplit, hname, hvalue⟩
    refine ⟨left, right, hsplit, ?_⟩
    rw [if_neg ((isEmpty_trimmed_iff hname).not.mpr hne)]
    simp only [hname, hvalue, Option.bind_some]

/-- A part of plain text is cut at the same place in bytes and in characters. -/
theorem splitFirst?_map_character_iff {part : List UInt8} (h : ∀ b ∈ part, isVisible b = true)
    {left right : List Char} : Text.splitFirst? '=' (part.map character) = some (left, right) ↔
      ∃ value, Text.splitFirst? 0x3D part = some (encodeChars left, value) ∧
        value.map character = right := by
  have hequals : '=' = character 0x3D := rfl
  have hfront : ∀ {front back : List UInt8}, Text.splitFirst? 0x3D part = some (front, back) →
      encodeChars (front.map character) = front := by
    intro front back hcut
    refine encodeChars_map_character fun b hb => h b ?_
    rw [(Text.splitFirst?_eq_some_iff.mp hcut).1]
    exact List.mem_append_left _ hb
  rw [hequals, Text.splitFirst?_map character_injective, Option.map_eq_some_iff]
  constructor
  · rintro ⟨⟨front, value⟩, hcut, heq⟩
    cases heq
    refine ⟨value, ?_, rfl⟩
    rw [hfront hcut, hcut]
  · rintro ⟨value, hcut, rfl⟩
    exact ⟨_, hcut, Prod.ext (Text.Utf8.encodeChars_injective (hfront hcut)) rfl⟩

/-- The pairs in a header are those of the parts that are kept. -/
theorem mem_pairs_iff {header : List UInt8} {name text : String} :
    (name, text) ∈ pairs header ↔ ∃ value, Keeps name header value text := by
  by_cases hvisible : header.all isVisible = true
  · have hpairs : pairs header =
        ((Text.splitAll 0x3B header).map (List.map character)).filterMap pair? := by
      rw [← Text.splitAll_map character_injective, pairs, visible?, if_pos hvisible]
      rfl
    have hpart : ∀ part ∈ Text.splitAll 0x3B header, ∀ b ∈ part, isVisible b = true :=
      fun part hpart b hb =>
        List.all_eq_true.mp hvisible b (Text.mem_of_mem_splitAll hpart hb)
    simp only [hpairs, List.mem_filterMap, List.mem_map, exists_exists_and_eq_and,
      pair?_eq_some_iff]
    constructor
    · rintro ⟨part, hmem, hne, left, right, hsplit, hname, hvalue⟩
      obtain ⟨value, hcut, rfl⟩ := (splitFirst?_map_character_iff (hpart part hmem)).mp hsplit
      exact ⟨value, hne, hvisible, ⟨part, hmem, left, hcut, hname⟩, hvalue⟩
    · rintro ⟨value, hne, -, ⟨part, hmem, left, hcut, hname⟩, hvalue⟩
      exact ⟨part, hmem, hne, left, _,
        (splitFirst?_map_character_iff (hpart part hmem)).mpr ⟨value, hcut, rfl⟩, hname, hvalue⟩
  · have hpairs : pairs header = [] := by
      rw [pairs, visible?, if_neg hvisible]
    rw [hpairs]
    refine iff_of_false List.not_mem_nil ?_
    rintro ⟨value, h⟩
    exact hvisible h.visible

/-- **What the jar has.** -/
theorem get?_ofHeaders_ne_none_iff {headers : List (List UInt8)} {name : String} :
    (Jar.ofHeaders headers).get? name ≠ none ↔
      ∃ header ∈ headers, ∃ value text, Keeps name header value text := by
  rw [Jar.ofHeaders, Store.Table.get?_ofPairs_ne_none_iff]
  simp only [List.mem_flatMap, Prod.exists, id_eq]
  constructor
  · rintro ⟨name, text, ⟨header, hheader, hmem⟩, rfl⟩
    obtain ⟨value, hkeeps⟩ := mem_pairs_iff.mp hmem
    exact ⟨header, hheader, value, text, hkeeps⟩
  · rintro ⟨header, hheader, value, text, hkeeps⟩
    exact ⟨name, text, ⟨header, hheader, mem_pairs_iff.mpr ⟨value, hkeeps⟩⟩, rfl⟩

end AccessBroker.Cookie
