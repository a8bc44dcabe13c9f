/-
What a script in a page says.

JSON inside a script differs from JSON elsewhere in the spelling of five
characters, which stand in quotes only (`respells_script`). So it is read back as
the value that was written (`read?_script`), and nothing in it ends the script
early (`endsScript_of_mem`). The page with the result of a request for a token
therefore posts that result to the origin it names, and posts nothing else
(`posts_token`), and its script ends where the page ends it (`delivers_token`).
-/
import AccessBroker.Page.Basic
import AccessBroker.Proofs.Text.Split
import AccessBroker.Proofs.Token.Result

namespace AccessBroker.Page

open Json (unicodeEscape Respells Spells)

/-! ## JSON inside a script -/

/-- One character of JSON inside a script. -/
def scriptChar (c : Char) : List Char := if endsScript c then unicodeEscape c.toNat else [c]

/-- One character in quotes inside a script. -/
def quotedChar (c : Char) : List Char :=
  if endsScript c then unicodeEscape c.toNat else Json.escapeChar c

theorem scriptChars_eq (j : Json) : scriptChars j = j.chars.flatMap scriptChar := rfl

/-- A character that could end a script stands for itself in quotes. -/
theorem lt_of_endsScript {c : Char} (h : endsScript c = true) : 0x20 ≤ c.toNat ∧
    c.toNat < 0x10000 ∧ Json.escapeChar c = [c] := by
  simp only [endsScript, Bool.or_eq_true, decide_eq_true_eq] at h
  rcases h with (((rfl | rfl) | rfl) | h) | h
  · decide
  · decide
  · decide
  all_goals
    rw [← Char.ofNat_toNat c, h]
    decide

theorem endsScript_of_mem_unicodeEscape {c d : Char} (h : d ∈ unicodeEscape c.toNat) :
    endsScript d = false := by
  have hdigit : ∀ n < 16, endsScript (Json.hexDigit n) = false := by decide
  simp only [unicodeEscape, List.mem_cons, List.not_mem_nil, or_false] at h
  rcases h with rfl | rfl | rfl | rfl | rfl | rfl
  · rfl
  · rfl
  all_goals exact hdigit _ (Nat.mod_lt _ (by decide))

theorem endsScript_of_mem_escapeChar {c d : Char} (hc : endsScript c = false)
    (h : d ∈ Json.escapeChar c) : endsScript d = false := by
  unfold Json.escapeChar at h
  split at h
  case h_8 =>
    split at h
    · exact endsScript_of_mem_unicodeEscape h
    · rwa [List.mem_singleton.mp h]
  all_goals exact Text.forall_mem_of_all (P := fun d => endsScript d = false) (by decide) d h

theorem flatMap_scriptChar : ∀ {cs : List Char}, (∀ c ∈ cs, endsScript c = false) →
    cs.flatMap scriptChar = cs
  | [], _ => rfl
  | c :: cs, h => by
    have hc : scriptChar c = [c] := by
      rw [scriptChar, h c List.mem_cons_self]
      rfl
    rw [List.flatMap_cons, hc, flatMap_scriptChar fun d hd => h d (List.mem_cons_of_mem c hd)]
    rfl

theorem respells_script : Respells scriptChar quotedChar where
  outer := Text.forall_mem_of_all (by decide)
  inner c := by
    by_cases hc : endsScript c = true
    · obtain ⟨-, -, hself⟩ := lt_of_endsScript hc
      rw [hself, List.flatMap_singleton, scriptChar, quotedChar, if_pos hc, if_pos hc]
    · rw [quotedChar, if_neg hc]
      exact flatMap_scriptChar fun d hd => endsScript_of_mem_escapeChar (by simpa using hc) hd
  spells c := by
    by_cases hc : endsScript c = true
    · obtain ⟨-, hlt, -⟩ := lt_of_endsScript hc
      rw [quotedChar, if_pos hc]
      exact .number hlt
    · rw [quotedChar, if_neg hc]
      exact Json.spells_escapeChar c

/-- **JSON inside a script is read back.** -/
theorem read?_script {j : Json} (h : j.IsExact) (hdepth : (j.tree quotedChar).depth ≤ Json.maxDepth) :
    Json.read? (script j) = some j :=
  Json.read?_flatMap respells_script h hdepth

theorem endsScript_of_mem {j : Json} {c : Char} (h : c ∈ (script j).toList) :
    endsScript c = false := by
  rw [script, String.toList_ofList, scriptChars_eq, List.mem_flatMap] at h
  obtain ⟨d, -, hc⟩ := h
  unfold scriptChar at hc
  split at hc
  · exact endsScript_of_mem_unicodeEscape hc
  · next hd =>
    rw [List.mem_singleton.mp hc]
    simpa using hd

/-! ## The page that posts a result -/

/-- What the page begins with, up to the message. -/
def postFront : String :=
  head ++ "Access token" ++ body ++ "<script>
window.parent.postMessage("

/-- What the page ends with, behind the origin. -/
def postBack : String := ");
</script>
" ++ foot

/-- The page posts a message to an origin: its script gives both, as texts in which nothing ends the
script or a line of it. -/
def Posts (html : String) (message : Json) (origin : String) : Prop :=
  ∃ first second, html = postFront ++ first ++ ", " ++ second ++ postBack ∧
    (∀ c ∈ first.toList ++ second.toList, endsScript c = false) ∧
    Json.read? first = some message ∧ Json.read? second = some (.text origin)

/-- **The page with a result posts the result** to the origin it was made for. -/
theorem posts_token (result : TokenResult) (origin : String) :
    Posts (token result origin) result.toJson origin := by
  refine ⟨script result.toJson, script (.text origin), ?_, fun c hc => ?_, ?_, ?_⟩
  · simp only [token, postFront, postBack, String.append_assoc]
  · rcases List.mem_append.mp hc with hc | hc
    · exact endsScript_of_mem hc
    · exact endsScript_of_mem hc
  · refine read?_script result.isExact_toJson ?_
    rw [TokenResult.depth_toJson]
    decide
  · exact read?_script trivial (Nat.zero_le _)

/-! ## Where the script ends -/

/-- Whether characters begin with the closing tag of a script, in letters of either case. -/
def closesScript (cs : List Char) : Bool := (cs.take 8).map Text.asciiLower = "</script".toList

/-- How many closing tags of scripts there are among characters. -/
def closings : List Char → Nat
  | [] => 0
  | c :: cs => closings cs + if closesScript (c :: cs) then 1 else 0

theorem eq_of_closesScript {c : Char} {cs : List Char} (h : closesScript (c :: cs) = true) :
    c = '<' := by
  have hlower : Text.asciiLower c = '<' := (List.cons.inj (of_decide_eq_true h)).1
  rw [Text.asciiLower] at hlower
  split at hlower
  · next hletter =>
    have hlow : 65 ≤ c.toNat := hletter.1
    have hhigh : c.toNat ≤ 90 := hletter.2
    have hnat := congrArg Char.toNat hlower
    rw [Text.Utf8.toNat_ofNat (.inl (by omega))] at hnat
    change c.toNat + 32 = 60 at hnat
    omega
  · exact hlower

theorem closings_of_not_mem : ∀ {cs : List Char}, '<' ∉ cs → closings cs = 0
  | [], _ => rfl
  | c :: cs, h => by
    rw [List.mem_cons, not_or] at h
    rw [closings, closings_of_not_mem h.2, if_neg fun hc => h.1 (eq_of_closesScript hc).symm]

/-- A tag has eight characters, so none reaches over the end of characters of which the last seven
begin none. -/
theorem closings_append : ∀ {cs : List Char}, '<' ∉ cs.drop (cs.length - 7) → ∀ ds : List Char,
    closings (cs ++ ds) = closings cs + closings ds
  | [], _, ds => by rw [closings, List.nil_append, Nat.zero_add]
  | c :: cs, h, ds => by
    by_cases hlength : cs.length < 7
    · have hnot : '<' ∉ c :: cs := by
        rwa [List.length_cons, Nat.sub_eq_zero_of_le (by omega), List.drop_zero] at h
      have hrest : '<' ∉ cs := fun hmem => hnot (List.mem_cons_of_mem c hmem)
      have hc : ¬closesScript (c :: (cs ++ ds)) = true := fun hc =>
        hnot (eq_of_closesScript hc ▸ List.mem_cons_self)
      rw [closings_of_not_mem hnot, List.cons_append, closings, if_neg hc,
        closings_append (fun hmem => hrest (List.mem_of_mem_drop hmem)) ds,
        closings_of_not_mem hrest]
      rfl
    · have hrest : '<' ∉ cs.drop (cs.length - 7) := by
        rwa [List.length_cons, Nat.succ_sub (by omega), List.drop_succ_cons] at h
      have htake : (c :: (cs ++ ds)).take 8 = (c :: cs).take 8 := by
        rw [← List.cons_append, List.take_append_of_le_length (by rw [List.length_cons]; omega)]
      rw [List.cons_append, closings, closings, closings_append hrest ds, closesScript, htake,
        ← closesScript]
      omega

/-- Between what the page begins and ends with, characters that begin no tag add no closing tag. -/
theorem closings_posts {inner : List Char} (hinner : '<' ∉ inner) :
    closings (postFront.toList ++ (inner ++ postBack.toList)) = 1 := by
  have hfront : closings postFront.toList = 0 := by decide +kernel
  have hback : closings postBack.toList = 1 := by decide +kernel
  rw [closings_append (by decide +kernel),
    closings_append fun hmem => hinner (List.mem_of_mem_drop hmem), closings_of_not_mem hinner,
    hfront, hback]

/-- Characters that do not end a script mean nothing in a page either. -/
theorem not_mem_of_endsScript {c : Char} (h : endsScript c = false) :
    c ∉ ['<', '>', '&', '\u2028', '\u2029'] := by
  intro hmem
  have hends : ∀ d ∈ ['<', '>', '&', '\u2028', '\u2029'], endsScript d = true :=
    Text.forall_mem_of_all (by decide)
  exact absurd (h.symm.trans (hends c hmem)) Bool.false_ne_true

/-- **The page with a result delivers the result.** It is a fixed text around two others. These give
the result and the origin back, and hold none of the characters that mean something in a page, so
the only closing tag of a script is the one that the fixed text ends the script with. -/
theorem delivers_token (result : TokenResult) (origin : String) :
    (∃ first second, token result origin = postFront ++ first ++ ", " ++ second ++ postBack ∧
      (∀ c ∈ first.toList ++ second.toList, c ∉ ['<', '>', '&', '\u2028', '\u2029']) ∧
      TokenResult.read? first = some result ∧ Json.read? second = some (.text origin)) ∧
    closings (token result origin).toList = 1 := by
  obtain ⟨first, second, hpage, hsafe, hfirst, hsecond⟩ := posts_token result origin
  have hnot : ∀ c ∈ first.toList ++ second.toList, c ∉ ['<', '>', '&', '\u2028', '\u2029'] :=
    fun c hc => not_mem_of_endsScript (hsafe c hc)
  have hinner : '<' ∉ first.toList ++ ", ".toList ++ second.toList := by
    intro hmem
    rcases List.mem_append.mp hmem with hmem | hmem
    · rcases List.mem_append.mp hmem with hmem | hmem
      · exact hnot _ (List.mem_append_left _ hmem) List.mem_cons_self
      · exact absurd hmem (by decide)
    · exact hnot _ (List.mem_append_right _ hmem) List.mem_cons_self
  refine ⟨⟨first, second, hpage, hnot, ?_, hsecond⟩, ?_⟩
  · rw [TokenResult.read?, hfirst, Option.bind_some, TokenResult.ofJson?_toJson]
  · have hchars : (token result origin).toList =
        postFront.toList ++ ((first.toList ++ ", ".toList ++ second.toList) ++ postBack.toList) := by
      rw [hpage]
      simp only [String.toList_append, List.append_assoc]
    rw [hchars, closings_posts hinner]

end AccessBroker.Page
