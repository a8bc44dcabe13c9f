/-
The text of an address, read again.

The text is read under the scheme of the address, from what stands behind the
colon (`parse?_text`). Of that only an end can be lost: all is kept up to any
character that stays, as long as nothing in front of it is dropped
(`parse?_text_of_front`).
-/
import AccessBroker.Proofs.Url.Authority

namespace AccessBroker

namespace Url

/-! ## Reading by the scheme -/

/-- Reads what stands behind a scheme. -/
def behind? (scheme : String) (rest : List Char) : Option Url :=
  if scheme = "file" then file? rest
  else if isWeb scheme then withAuthority? scheme (rest.dropWhile isSlash)
  else other? scheme rest

theorem parse?_eq (s : String) :
    parse? s = (scheme? (readable s)).bind fun (scheme, rest) => behind? scheme rest := rfl

theorem scheme_of_withAuthority? {scheme : String} {cs : List Char} {u : Url}
    (h : withAuthority? scheme cs = some u) : u.scheme = scheme := by
  obtain ⟨_, -, rfl⟩ := Option.map_eq_some_iff.mp h
  rfl

theorem scheme_of_file? {cs : List Char} {u : Url} (h : file? cs = some u) : u.scheme = "file" := by
  unfold file? at h
  split at h
  · dsimp only at h
    split at h
    · split at h
      · cases h
        rfl
      · obtain ⟨_, -, rfl⟩ := Option.map_eq_some_iff.mp h
        rfl
    · cases h
      rfl
  · cases h
    rfl

theorem scheme_of_other? {scheme : String} {cs : List Char} {u : Url}
    (h : other? scheme cs = some u) : u.scheme = scheme := by
  unfold other? at h
  split at h
  · exact scheme_of_withAuthority? h
  · cases h
    rfl
  · cases h
    rfl

theorem scheme_of_behind? {scheme : String} {rest : List Char} {u : Url}
    (h : behind? scheme rest = some u) : u.scheme = scheme := by
  rw [behind?] at h
  split at h
  · next hfile => exact (scheme_of_file? h).trans hfile.symm
  · split at h
    · exact scheme_of_withAuthority? h
    · exact scheme_of_other? h

theorem suffix_of_scheme? {cs rest : List Char} {scheme : String}
    (h : scheme? cs = some (scheme, rest)) : ':' :: rest <:+ cs := by
  cases cs with
  | nil => cases h
  | cons c cs =>
    rw [scheme?] at h
    split at h
    · split at h
      · next hdrop =>
        cases h
        exact hdrop ▸ List.dropWhile_suffix isSchemeChar
      · cases h
    · cases h

/-- An address that is read has a scheme, and what stands behind it is read by the scheme. -/
theorem behind?_of_parse? {s : String} {u : Url} (h : parse? s = some u) :
    IsScheme u.scheme.toList ∧
      ∃ rest, ':' :: rest <:+ readable s ∧ behind? u.scheme rest = some u := by
  obtain ⟨⟨scheme, rest⟩, hscheme, hbehind⟩ := Option.bind_eq_some_iff.mp h
  have hu := scheme_of_behind? hbehind
  rw [hu]
  exact ⟨isScheme_of_scheme? hscheme, rest, suffix_of_scheme? hscheme, hbehind⟩

/-! ## The text of an address -/

/-- What stands behind the path. -/
def tailText (u : Url) : String :=
  (match u.query with
    | some q => "?" ++ q
    | none => "") ++
    (match u.fragment with
      | some f => "#" ++ f
      | none => "")

/-- What stands behind the scheme and its colon. -/
def restText (u : Url) : String := u.authorityText ++ u.path.text ++ u.tailText

theorem toList_text (u : Url) : u.text.toList = u.scheme.toList ++ ':' :: u.restText.toList := by
  rw [text, restText, tailText]
  simp only [String.toList_append, List.append_assoc]
  rfl

theorem IsScheme.stays {cs : List Char} (h : IsScheme cs) : ∀ c ∈ cs, Stays c := fun c hc =>
  stays_of_isSchemeChar (h.small c hc).1

theorem IsScheme.stays_head {cs : List Char} (h : IsScheme cs) (xs : List Char) :
    ∀ a ∈ (cs ++ xs).head?, Stays a := by
  cases cs with
  | nil => exact absurd h.head (by decide)
  | cons c cs =>
    intro a ha
    exact h.stays a (List.mem_of_mem_head? ha)

/-- The text of an address is read under its scheme. -/
theorem parse?_text {u : Url} (hscheme : IsScheme u.scheme.toList) :
    ∃ back, back.Sublist u.restText.toList ∧
      parse? (Text.trim u.text) = behind? u.scheme back := by
  have hfirst := hscheme.stays_head []
  rw [List.append_nil] at hfirst
  have hshow : ∀ c ∈ u.scheme.toList, 0x20 ≤ c.toNat := fun c hc =>
    Nat.le_of_lt (hscheme.stays c hc).2
  obtain ⟨back, hsub, hread⟩ :=
    readable_trim hfirst (show Stays ':' from ⟨rfl, by decide⟩) hshow u.restText.toList
  rw [← toList_text, String.ofList_toList] at hread
  refine ⟨back, hsub, ?_⟩
  rw [parse?_eq, hread, scheme?_append hscheme, String.ofList_toList]
  rfl

/-- What stands behind the scheme keeps a front that ends in a character that stays. -/
theorem parse?_text_of_front {u : Url} (hscheme : IsScheme u.scheme.toList) {front back : List Char}
    {z : Char} (htext : u.restText.toList = front ++ z :: back) (hz : Stays z)
    (hfront : ∀ c ∈ front, 0x20 ≤ c.toNat) : ∃ back', back'.Sublist back ∧
      parse? (Text.trim u.text) = behind? u.scheme (front ++ z :: back') := by
  have hshow : ∀ c ∈ u.scheme.toList ++ ':' :: front, 0x20 ≤ c.toNat := by
    rw [List.forall_mem_append, List.forall_mem_cons]
    exact ⟨fun c hc => Nat.le_of_lt (hscheme.stays c hc).2, by decide, hfront⟩
  obtain ⟨back', hsub, hread⟩ := readable_trim (hscheme.stays_head _) hz hshow back
  rw [List.append_assoc, List.cons_append, ← htext, ← toList_text, String.ofList_toList,
    List.append_assoc, List.cons_append] at hread
  refine ⟨back', hsub, ?_⟩
  rw [parse?_eq, hread, scheme?_append hscheme, String.ofList_toList]
  rfl

/-! ## Paths -/

namespace Path

theorem resolve_ne_nil {files : Bool} : ∀ {ss : List String} (before : List String), ss ≠ [] →
    resolve files before ss ≠ []
  | [], _, h => absurd rfl h
  | [last], before, _ => by
    rw [resolve]
    split
    · exact List.append_ne_nil_of_right_ne_nil _ (List.cons_ne_nil _ _)
    · split
      · exact List.append_ne_nil_of_right_ne_nil _ (List.cons_ne_nil _ _)
      · exact List.append_ne_nil_of_right_ne_nil _ (List.cons_ne_nil _ _)
  | s :: s' :: ss, before, _ => by
    have ih : ∀ before, resolve files before (s' :: ss) ≠ [] := fun before =>
      resolve_ne_nil before (List.cons_ne_nil s' ss)
    rw [resolve]
    split
    · exact ih _
    · split
      · exact ih _
      · exact ih _
    · exact List.cons_ne_nil s' ss

theorem cut_ne_nil (web : Bool) (cs : List Char) : cut web cs ≠ [] := by
  rw [cut]
  exact fun h => Text.splitAll_ne_nil _ (List.map_eq_nil_iff.mp h)

theorem text_segments_cons (s : String) (ss : List String) :
    (segments (s :: ss)).text.toList = '/' :: (s.toList ++ (segments ss).text.toList) := by
  simp [text, String.join_cons]

end Path

end Url

end AccessBroker
