/-
What the values in a page can do to it.

A text is shown by characters that mean nothing in a page but for the entities among them, and that
are read back as the text (`Shows`); there is one way to show it, and `escape` finds it
(`shows_iff`). A page is a template with values in its places (`fill`). Values without tags leave
the tags of the template as they are (`tags_fill`), and the page with a cookie is such a page.
-/
import AccessBroker.Proofs.Page.Facts

namespace AccessBroker.Page

/-! ## Characters that show a text -/

/-- The entities that stand in pages. -/
def entities : List (List Char) :=
  ["&amp;".toList, "&lt;".toList, "&gt;".toList, "&quot;".toList, "&#x27;".toList]

/-- The characters that begin and end tags, and the values in them. -/
def marks : List Char := ['<', '>', '"', '\x27']

/-- Characters that mean nothing in a page but for the entities among them. -/
structure IsInert (cs : List Char) : Prop where
  plain : ∀ c ∈ cs, c ∉ marks
  entity : ∀ rest, '&' :: rest <:+ cs → ∃ e ∈ entities, e <+: '&' :: rest

/-- What stands in a page shows a text. -/
structure Shows (shown text : String) : Prop where
  inert : IsInert shown.toList
  decodes : decode shown.toList = text.toList

theorem isInert_nil : IsInert [] where
  plain _ hc := nomatch hc
  entity _ h := nomatch List.suffix_nil.mp h

theorem IsInert.append {xs ys : List Char} (hxs : IsInert xs) (hys : IsInert ys) :
    IsInert (xs ++ ys) where
  plain c hc := (List.mem_append.mp hc).elim (hxs.plain c) (hys.plain c)
  entity rest := by
    rintro ⟨front, h⟩
    rcases List.append_eq_append_iff.mp h with ⟨mid, hxs', hrest⟩ | ⟨mid, hfront, hys'⟩
    · cases mid with
      | nil =>
        -- The ampersand is the first character of the second text.
        have hself : ys = '&' :: rest := hrest.symm
        exact hys.entity rest (hself ▸ List.suffix_rfl)
      | cons c mid =>
        obtain ⟨rfl, rfl⟩ : '&' = c ∧ rest = mid ++ ys := by simpa using hrest
        obtain ⟨e, he, hprefix⟩ := hxs.entity mid ⟨front, hxs'.symm⟩
        exact ⟨e, he, hprefix.trans (List.prefix_append _ ys)⟩
    · exact hys.entity rest ⟨mid, hys'.symm⟩

theorem IsInert.of_suffix {cs back : List Char} (h : IsInert cs) (hback : back <:+ cs) :
    IsInert back where
  plain c hc := h.plain c (hback.subset hc)
  entity rest hrest := h.entity rest (hrest.trans hback)

/-- An entity has one ampersand, in front. -/
theorem exists_of_mem_entities : ∀ e ∈ entities, ∃ tail, e = '&' :: tail ∧ '&' ∉ tail ∧
    ∀ c ∈ tail, c ∉ marks := by
  intro e he
  simp only [entities, List.mem_cons, List.not_mem_nil, or_false] at he
  rcases he with rfl | rfl | rfl | rfl | rfl
  all_goals exact ⟨_, rfl, by decide, Text.forall_mem_of_all (by decide)⟩

theorem isInert_of_mem {e : List Char} (he : e ∈ entities) : IsInert e := by
  obtain ⟨tail, rfl, hnot, hplain⟩ := exists_of_mem_entities e he
  constructor
  · intro c hc
    rcases List.mem_cons.mp hc with rfl | hc
    · decide
    · exact hplain c hc
  · intro rest h
    rcases List.suffix_cons_iff.mp h with hself | hlater
    · exact ⟨_, he, hself ▸ List.prefix_rfl⟩
    · exact absurd (hlater.subset List.mem_cons_self) hnot

/-- What could mean something in a page is shown by entities, and all entities are for that. -/
theorem mem_entities_iff {e : List Char} : e ∈ entities ↔ ∃ c ∈ '&' :: marks, escapeChar c = e := by
  have hsame : entities = ('&' :: marks).map escapeChar := by decide
  rw [hsame, List.mem_map]

theorem escapeChar_of_not_mem {c : Char} (h : c ∉ '&' :: marks) : escapeChar c = [c] := by
  unfold escapeChar
  split
  case h_6 => rfl
  all_goals exact absurd (by decide) h

theorem isInert_escapeChar (c : Char) : IsInert (escapeChar c) := by
  by_cases hmark : c ∈ '&' :: marks
  · exact isInert_of_mem (mem_entities_iff.mpr ⟨c, hmark, rfl⟩)
  · rw [escapeChar_of_not_mem hmark]
    rw [List.mem_cons, not_or] at hmark
    constructor
    · intro d hd
      exact List.mem_singleton.mp hd ▸ hmark.2
    · intro rest h
      have hmem : '&' ∈ [c] := h.subset List.mem_cons_self
      exact absurd (List.mem_singleton.mp hmem).symm hmark.1

theorem isInert_flatMap_escapeChar : ∀ cs : List Char, IsInert (cs.flatMap escapeChar)
  | [] => isInert_nil
  | c :: cs => (isInert_escapeChar c).append (isInert_flatMap_escapeChar cs)

/-- Inert characters show some text. -/
theorem IsInert.exists_eq_flatMap : ∀ {cs : List Char}, IsInert cs →
    ∃ text : List Char, text.flatMap escapeChar = cs
  | [], _ => ⟨[], rfl⟩
  | c :: cs, h => by
    by_cases hamp : c = '&'
    · -- An entity stands here, and what is behind it is inert again.
      obtain ⟨e, he, back, hback⟩ := h.entity cs (hamp ▸ List.suffix_rfl)
      rw [← hamp] at hback
      obtain ⟨d, -, rfl⟩ := mem_entities_iff.mp he
      obtain ⟨tail, htail, -⟩ := exists_of_mem_entities _ he
      have hlt : back.length < (c :: cs).length := by
        rw [← hback, htail, List.length_append, List.length_cons]
        omega
      obtain ⟨text, rfl⟩ := IsInert.exists_eq_flatMap (h.of_suffix ⟨_, hback⟩)
      exact ⟨d :: text, hback⟩
    · obtain ⟨text, rfl⟩ := IsInert.exists_eq_flatMap (h.of_suffix (List.suffix_cons c cs))
      have hself : escapeChar c = [c] := by
        refine escapeChar_of_not_mem ?_
        rw [List.mem_cons, not_or]
        exact ⟨hamp, h.plain c List.mem_cons_self⟩
      exact ⟨c :: text, by rw [List.flatMap_cons, hself, List.singleton_append]⟩
termination_by cs => cs.length
decreasing_by
  · exact hlt
  · exact Nat.lt_succ_self cs.length

/-- **There is one way to show a text, and it is how the text is written into a page.** -/
theorem shows_iff {shown text : String} : Shows shown text ↔ shown = escape text := by
  constructor
  · rintro ⟨hinert, hdecode⟩
    obtain ⟨cs, hcs⟩ := hinert.exists_eq_flatMap
    rw [← hcs, decode_escape] at hdecode
    rw [escape, ← hdecode, hcs, String.ofList_toList]
  · rintro rfl
    constructor
    · rw [escape, String.toList_ofList]
      exact isInert_flatMap_escapeChar text.toList
    · rw [escape, String.toList_ofList, decode_escape]

example : escape "<i>&lt; 'R&D'" = "&lt;i&gt;&amp;lt; &#x27;R&amp;D&#x27;" := by decide

/-! ## Templates -/

/-- A template with values in its places, which are between its texts. -/
def fill : List String → List String → String
  | [], _ => ""
  | text :: texts, [] => text ++ fill texts []
  | text :: texts, value :: values => text ++ (value ++ fill texts values)

/-- Whether a character is followed by what is inside a tag. -/
def inside (inTag : Bool) (c : Char) : Bool := if inTag then c ≠ '>' else c = '<'

/-- The tags in a part of a page, which begins inside a tag or outside of all. -/
def tags : Bool → List Char → List Char
  | _, [] => []
  | inTag, c :: cs => (if inTag || inside inTag c then [c] else []) ++ tags (inside inTag c) cs

theorem tags_append : ∀ (inTag : Bool) (xs ys : List Char),
    tags inTag (xs ++ ys) = tags inTag xs ++ tags (xs.foldl inside inTag) ys
  | _, [], _ => rfl
  | inTag, c :: xs, ys => by
    rw [List.cons_append, tags, tags, tags_append _ xs ys, List.append_assoc, List.foldl_cons]

/-- A value without tags leaves no trace among the tags around it. -/
theorem tags_of_not_mem : ∀ {value : List Char}, '<' ∉ value → ∀ ys,
    tags false (value ++ ys) = tags false ys
  | [], _, _ => rfl
  | c :: value, h, ys => by
    rw [List.mem_cons, not_or] at h
    have hc : inside false c = false := by simpa [inside] using Ne.symm h.1
    rw [List.cons_append, tags, hc, tags_of_not_mem h.2]
    rfl

/-- **The tags of a page are those of its template**, if every place of the template is outside of
all tags and no value has a tag in it. -/
theorem tags_fill : ∀ {texts values : List String},
    (∀ text ∈ texts, text.toList.foldl inside false = false) → (∀ v ∈ values, '<' ∉ v.toList) →
    tags false (fill texts values).toList = texts.flatMap fun text => tags false text.toList
  | [], _, _, _ => rfl
  | text :: texts, [], htexts, hvalues => by
    have ih := tags_fill (fun t ht => htexts t (List.mem_cons_of_mem text ht)) hvalues
    rw [fill, String.toList_append, tags_append, htexts text List.mem_cons_self, ih,
      List.flatMap_cons]
  | text :: texts, value :: values, htexts, hvalues => by
    have ih := tags_fill (fun t ht => htexts t (List.mem_cons_of_mem text ht))
      fun v hv => hvalues v (List.mem_cons_of_mem value hv)
    rw [fill, String.toList_append, String.toList_append, tags_append,
      htexts text List.mem_cons_self, tags_of_not_mem (hvalues value List.mem_cons_self), ih,
      List.flatMap_cons]

/-! ## The page with a cookie -/

/-- The texts of the page with a cookie, between its places. -/
def cookieTexts : List String :=
  [head ++ "Access granted" ++ body ++ "<h1>Access cookie issued</h1>
<dl>
<dt>Service version</dt><dd>",
    "</dd>
<dt>Origin</dt><dd>",
    "</dd>
<dt>Client IP address</dt><dd>",
    "</dd>
<dt>Campus network</dt><dd>",
    "</dd>
<dt>Degraded access allowed</dt><dd>",
    "</dd>
</dl>
<p>This window will close automatically.</p>
<script>
window.setTimeout(function () \x7b window.close(); \x7d, ",
    ");
</script>
" ++ foot]

/-- The values in the page, as they stand in it. -/
def cookieValues (version origin : String) (c : AccessCookie) (seconds : UInt64) : List String :=
  [escape version, escape origin, escape c.address, flag c.campus, flag c.degraded,
    Text.natText (delay seconds)]

theorem cookie_eq_fill (version origin : String) (c : AccessCookie) (seconds : UInt64) :
    cookie version origin c seconds = fill cookieTexts (cookieValues version origin c seconds) := by
  simp only [cookie, fill, cookieTexts, cookieValues, String.append_assoc, String.append_empty]

theorem flag_eq_toString (b : Bool) : flag b = toString b := by
  cases b
  · rfl
  · rfl

theorem not_mem_cookieValues (version origin : String) (c : AccessCookie) (seconds : UInt64) :
    ∀ v ∈ cookieValues version origin c seconds, '<' ∉ v.toList := by
  have hflag : ∀ b, '<' ∉ (flag b).toList := by decide
  have htimer : '<' ∉ (Text.natText (delay seconds)).toList := by
    rw [Text.natText, String.toList_ofList]
    exact Text.not_mem_toDigits (by decide)
  simp only [cookieValues, List.forall_mem_cons, List.not_mem_nil, false_implies, implies_true,
    and_true]
  exact ⟨not_mem_escape version, not_mem_escape origin, not_mem_escape c.address, hflag c.campus,
    hflag c.degraded, htimer⟩

/-- **No value alters the page with a cookie.** In its template stand characters that show the
version, the origin and the address, the two flags, and the delay; and its tags are those of the
template. -/
theorem cookie_unaltered (version origin : String) (c : AccessCookie) (seconds : UInt64) :
    (∃ v o a, Shows v version ∧ Shows o origin ∧ Shows a c.address ∧
      cookie version origin c seconds = fill cookieTexts [v, o, a, toString c.campus,
        toString c.degraded, (min (1000 * seconds.toNat) (Nat.pow 2 64 - 1)).repr]) ∧
    tags false (cookie version origin c seconds).toList =
      cookieTexts.flatMap fun text => tags false text.toList := by
  constructor
  · refine ⟨escape version, escape origin, escape c.address, shows_iff.mpr rfl, shows_iff.mpr rfl,
      shows_iff.mpr rfl, ?_⟩
    rw [cookie_eq_fill, cookieValues, flag_eq_toString, flag_eq_toString]
    rfl
  · have htexts : ∀ text ∈ cookieTexts, text.toList.foldl inside false = false := by decide +kernel
    rw [cookie_eq_fill, tags_fill htexts (not_mem_cookieValues version origin c seconds)]

end AccessBroker.Page
