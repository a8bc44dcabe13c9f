/-
Origins told by the text of an address.

Where the scheme is one of the web the authority is found again in the text, and
with it the origin (`origin?_text_of_web`). An address that names another has
the path that it had, and so its origin (`origin?_text_of_blob`); all others have
none, before and after (`origin?_text_of_other`). So the text has the key of
every spelling that it stands for where there is an origin, and the key that it
has of itself where there is none (`key_text`). `Names` says what an address
names without saying how deep it is looked for.
-/
import AccessBroker.Proofs.Url.Text

namespace AccessBroker

namespace Url

theorem exists_cons_pathAfter (cs : List Char) :
    ∃ path, (pathAfter true cs).text.toList = '/' :: path := by
  have hcons : ∀ {ss : List String}, ss ≠ [] →
      ∃ path, (Path.segments ss).text.toList = '/' :: path := by
    intro ss hne
    cases ss with
    | nil => exact absurd rfl hne
    | cons s ss => exact ⟨_, Path.text_segments_cons s ss⟩
  unfold pathAfter
  dsimp only
  split
  · exact hcons (List.cons_ne_nil _ _)
  · exact hcons (Path.resolve_ne_nil _ (Path.cut_ne_nil _ _))

/-! ## Origins of the web -/

theorem isWeb_of_usualPort? {scheme : String} {usual : Nat}
    (h : usualPort? scheme = some usual) : isWeb scheme = true := by
  rw [isWeb, h]
  rfl

theorem ne_file_of_usualPort? {scheme : String} {usual : Nat}
    (h : usualPort? scheme = some usual) : scheme ≠ "file" := by
  rintro rfl
  cases h

/-- What an address is read with under a scheme of the web. -/
theorem authority_of_behind? {scheme : String} {rest : List Char} {u : Url} {usual : Nat}
    (husual : usualPort? scheme = some usual) (h : behind? scheme rest = some u) :
    ∃ a, u.authority = some a ∧ a.IsRead scheme ∧ ∃ path, u.path.text.toList = '/' :: path := by
  have hweb := isWeb_of_usualPort? husual
  rw [behind?, if_neg (ne_file_of_usualPort? husual), if_pos hweb, withAuthority?, hweb] at h
  obtain ⟨⟨a, rest'⟩, ha, rfl⟩ := Option.map_eq_some_iff.mp h
  exact ⟨a, rfl, isRead_of_authority? hweb ha, exists_cons_pathAfter rest'⟩

theorem ownOrigin?_of_none {u : Url} (h : usualPort? u.scheme = none) : u.ownOrigin? = none := by
  rw [ownOrigin?, h]
  cases u.authority with
  | none => rfl
  | some a => rfl

theorem origin?_of_ne_blob {u : Url} (h : u.scheme ≠ "blob") : u.origin? = u.ownOrigin? := by
  rw [origin?]
  cases u.path.text.length with
  | zero => rfl
  | succ n => exact if_neg h

theorem ne_blob_of_usualPort? {scheme : String} {usual : Nat}
    (h : usualPort? scheme = some usual) : scheme ≠ "blob" := by
  rintro rfl
  cases h

/-- The authority of an address of the web is found again behind two slashes. -/
theorem behind?_slashes {scheme : String} {usual : Nat} (husual : usualPort? scheme = some usual)
    {a : Authority} (h : a.IsRead scheme) (hhost : a.host.ReadsBack) (back : List Char) :
    ∃ u a', behind? scheme ("//".toList ++ a.text.toList ++ '/' :: back) = some u ∧
      u.authority = some a' ∧ a'.host = a.host ∧ a'.port = a.port := by
  have hweb := isWeb_of_usualPort? husual
  have hdrop : ("//".toList ++ a.text.toList ++ '/' :: back).dropWhile isSlash =
      a.text.toList ++ '/' :: back := by
    cases htext : a.text.toList with
    | nil => exact absurd htext h.text_ne_nil
    | cons c cs =>
      have hc := (h.mem_text c (htext ▸ List.mem_cons_self)).1
      simp only [endsAuthority, Bool.true_and, Bool.or_eq_false_iff, decide_eq_false_iff_not] at hc
      have hslash : isSlash c = false := by
        simp [isSlash, hc]
      change (c :: (cs ++ '/' :: back)).dropWhile isSlash = _
      rw [List.dropWhile_cons_of_neg (Bool.eq_false_iff.mp hslash)]
      rfl
  obtain ⟨a', hread, ha', hport⟩ := authority?_text hweb h hhost back
  refine ⟨finish scheme (some a') (pathAfter true ('/' :: back)) ('/' :: back), a', ?_, rfl, ha',
    hport⟩
  rw [behind?, if_neg (ne_file_of_usualPort? husual), if_pos hweb, hdrop, withAuthority?, hread, hweb]
  rfl

/-- **The text of an address of the web has its origin.** -/
theorem origin?_text_of_web {u : Url} {s : String} (hparse : parse? s = some u) {usual : Nat}
    (husual : usualPort? u.scheme = some usual)
    (hhost : ∀ o, u.origin? = some o → o.host.ReadsBack) :
    (parse? (Text.trim u.text)).bind origin? = u.origin? := by
  obtain ⟨hscheme, rest, -, hbehind⟩ := behind?_of_parse? hparse
  obtain ⟨a, hauthority, hread, path, hpath⟩ := authority_of_behind? husual hbehind
  have hown : ∀ {v : Url} {a' : Authority}, v.scheme = u.scheme → v.authority = some a' →
      v.origin? = some ⟨u.scheme, a'.host, a'.port.getD usual⟩ := by
    intro v a' hv ha'
    rw [origin?_of_ne_blob (hv ▸ ne_blob_of_usualPort? husual), ownOrigin?, ha', hv, husual]
  have ho := hown rfl hauthority
  have htext : ∃ back, u.restText.toList = "//".toList ++ a.text.toList ++ '/' :: back := by
    rw [restText, authorityText, hauthority]
    simp [hpath]
  obtain ⟨back, htext⟩ := htext
  have hfront : ∀ c ∈ "//".toList ++ a.text.toList, 0x20 ≤ c.toNat := by
    rw [List.forall_mem_append]
    exact ⟨Text.forall_mem_of_all (by decide), fun c hc => (hread.mem_text c hc).2⟩
  obtain ⟨back', -, hparse'⟩ :=
    parse?_text_of_front hscheme htext (show Stays '/' from ⟨rfl, by decide⟩) hfront
  obtain ⟨v, a', hv, ha', hhost', hport'⟩ := behind?_slashes husual hread (hhost _ ho) back'
  rw [hparse', hv, Option.bind_some, hown (scheme_of_behind? hv) ha', hhost', hport', ho]

/-! ## No origin -/

/-- **The text of an address without an origin has none**, apart from addresses that name others. -/
theorem origin?_text_of_other {u : Url} {s : String} (hparse : parse? s = some u)
    (hweb : usualPort? u.scheme = none) (hblob : u.scheme ≠ "blob") :
    u.origin? = none ∧ (parse? (Text.trim u.text)).bind origin? = none := by
  obtain ⟨hscheme, rest, -, -⟩ := behind?_of_parse? hparse
  have hnone : ∀ {v : Url}, v.scheme = u.scheme → v.origin? = none := by
    intro v hv
    rw [origin?_of_ne_blob (hv ▸ hblob), ownOrigin?_of_none (hv ▸ hweb)]
  obtain ⟨back, -, hparse'⟩ := parse?_text hscheme
  refine ⟨hnone rfl, ?_⟩
  rw [hparse', Option.bind_eq_none_iff]
  exact fun v hv => hnone (scheme_of_behind? hv)

/-! ## Addresses that name others -/

theorem ownOrigin?_of_blob {u : Url} (h : u.scheme = "blob") : u.ownOrigin? = none :=
  ownOrigin?_of_none (h ▸ by decide)

/-- The origin of an address that names another hangs on its path alone. -/
theorem origin?_eq_of_blob {u v : Url} (hu : u.scheme = "blob") (hv : v.scheme = "blob")
    (hpath : v.path = u.path) : v.origin? = u.origin? := by
  rw [origin?, origin?, hpath]
  cases u.path.text.length with
  | zero => exact (ownOrigin?_of_blob hv).trans (ownOrigin?_of_blob hu).symm
  | succ n => rw [originWithin?, originWithin?, if_pos hv, if_pos hu, hpath]

/-- A text that begins with a slash is no address. -/
theorem parse?_slash {s : String} {cs : List Char} (h : s.toList = '/' :: cs) : parse? s = none := by
  have hfirst : ∀ a ∈ ([] : List Char).head?, Stays a := fun _ ha => (Option.not_mem_none _ ha).elim
  obtain ⟨cs', -, hread⟩ := readable_front hfirst (show Stays '/' from ⟨rfl, by decide⟩)
    (fun _ hc => (List.not_mem_nil hc).elim) cs
  rw [List.nil_append, ← h, String.ofList_toList] at hread
  rw [parse?_eq, hread]
  rfl

/-- A path with structure is no address. -/
theorem parse?_segments (ss : List String) : parse? (Path.segments ss).text = none := by
  cases ss with
  | nil => rfl
  | cons s ss => exact parse?_slash (Path.text_segments_cons s ss)

theorem origin?_of_segments {u : Url} (hu : u.scheme = "blob") {ss : List String}
    (hpath : u.path = .segments ss) : u.origin? = none := by
  rw [origin?, hpath]
  cases (Path.segments ss).text.length with
  | zero => exact ownOrigin?_of_blob hu
  | succ n => rw [originWithin?, if_pos hu, hpath, parse?_segments, Option.bind_none]

theorem exists_segments_pathAfter (web : Bool) (cs : List Char) :
    ∃ ss, pathAfter web cs = .segments ss := by
  unfold pathAfter
  dsimp only
  split
  · exact ⟨_, rfl⟩
  · exact ⟨_, rfl⟩

/-- An authority or a segment is written with a slash in front. -/
theorem exists_cons_restText {u : Url}
    (h : (∃ a, u.authority = some a) ∨ ∃ s ss, u.path = .segments (s :: ss)) :
    ∃ back, u.restText.toList = '/' :: back := by
  rw [restText, authorityText]
  split
  · exact ⟨_, by simp; rfl⟩
  · exact ⟨_, by simp; rfl⟩
  · next hnone _ =>
    rcases h with ⟨a, ha⟩ | ⟨s, ss, hpath⟩
    · rw [ha] at hnone
      cases hnone
    · rw [hpath]
      simp only [String.toList_append, Path.text_segments_cons]
      exact ⟨_, rfl⟩

/-- Behind a slash stands a path with structure, and a slash stands in front of it again. -/
theorem path_of_other?_slash {scheme : String} {cs : List Char} {u : Url}
    (h : other? scheme ('/' :: cs) = some u) :
    (∃ ss, u.path = .segments ss) ∧ ∃ back, u.restText.toList = '/' :: back := by
  unfold other? at h
  split at h
  · obtain ⟨⟨a, rest⟩, -, rfl⟩ := Option.map_eq_some_iff.mp h
    exact ⟨exists_segments_pathAfter _ rest, exists_cons_restText (.inl ⟨a, rfl⟩)⟩
  · next rest _ _ =>
    cases h
    cases hpath : Path.resolve false [] (Path.cut false (rest.takeWhile fun c => !endsPath c)) with
    | nil => exact absurd hpath (Path.resolve_ne_nil [] (Path.cut_ne_nil false _))
    | cons s ss => exact ⟨⟨s :: ss, rfl⟩, exists_cons_restText (.inr ⟨s, ss, rfl⟩)⟩
  · next hne => exact (hne cs rfl).elim

theorem encodeChars_eq_self {inSet : Char → Bool} : ∀ {cs : List Char},
    (∀ c ∈ cs, Text.Percent.isOutside c = false ∧ inSet c = false) →
      Text.Percent.encodeChars inSet cs = cs
  | [], _ => rfl
  | c :: cs, h => by
    obtain ⟨houtside, hplain⟩ := h c List.mem_cons_self
    have ih := encodeChars_eq_self fun d hd => h d (List.mem_cons_of_mem c hd)
    rw [Text.Percent.encodeChars] at ih
    rw [Text.Percent.encodeChars, List.flatMap_cons, ih, Text.Percent.encodeChar, houtside, hplain]
    rfl

/-- The path without structure that stands in front of a query or a fragment. -/
def opaqueChars (cs : List Char) : List Char :=
  Text.Percent.encodeChars (fun _ => false) (cs.takeWhile fun c => !endsPath c)

/-- The address that has no structure behind its scheme. -/
def ofOpaque (scheme : String) (cs : List Char) : Url :=
  finish scheme none (.opaqueText (String.ofList (opaqueChars cs))) cs

theorem other?_eq_ofOpaque {scheme : String} {cs : List Char} (h : cs.head? ≠ some '/') :
    other? scheme cs = some (ofOpaque scheme cs) := by
  unfold other?
  split
  · exact absurd rfl h
  · exact absurd rfl h
  · rfl

theorem mem_opaqueChars {cs : List Char} {c : Char} (h : c ∈ opaqueChars cs) :
    Text.Percent.isOutside c = false ∧ endsPath c = false := by
  have hspelled : ∀ c ∈ Text.Percent.spellChars,
      Text.Percent.isOutside c = false ∧ endsPath c = false :=
    Text.forall_mem_of_all (by decide)
  rcases Text.Percent.mem_encodeChars h with h | ⟨hmem, houtside, -⟩
  · exact hspelled c h
  · have hend := List.all_eq_true.mp List.all_takeWhile c hmem
    exact ⟨houtside, by simpa using hend⟩

/-- What ends a path or a text. -/
def EndsPath (cs : List Char) : Prop := ∀ c ∈ cs.head?, endsPath c = true

/-- A path without structure is read back from what is written. -/
theorem opaqueChars_append {cs tail : List Char} (htail : EndsPath tail) :
    opaqueChars (opaqueChars cs ++ tail) = opaqueChars cs := by
  have hall : ∀ c ∈ opaqueChars cs, (!endsPath c) = true := by
    intro c hc
    rw [(mem_opaqueChars hc).2]
    rfl
  have hstop : tail.takeWhile (fun c => !endsPath c) = [] := by
    cases tail with
    | nil => rfl
    | cons c tail => exact List.takeWhile_cons_of_neg (by rw [htail c rfl]; decide)
  conv => lhs; rw [opaqueChars, List.takeWhile_append_of_pos hall, hstop, List.append_nil]
  exact encodeChars_eq_self fun c hc => ⟨(mem_opaqueChars hc).1, rfl⟩

theorem head?_opaqueChars {cs : List Char} (h : cs.head? ≠ some '/') {tail : List Char}
    (htail : EndsPath tail) : (opaqueChars cs ++ tail).head? ≠ some '/' := by
  have hend : endsPath '/' = false := rfl
  have htail' : tail.head? ≠ some '/' := fun hslash => by
    rw [htail '/' hslash] at hend
    cases hend
  cases cs with
  | nil => exact htail'
  | cons c cs =>
    rw [opaqueChars, List.takeWhile_cons]
    split
    · rw [Text.Percent.encodeChars, List.flatMap_cons, Text.Percent.encodeChar]
      split
      · obtain ⟨b, bytes, hbytes, -⟩ := Text.Utf8.scan_encodeChar c []
        rw [hbytes]
        simp [Text.Percent.spell_eq]
      · exact h
    · exact htail'

theorem endsPath_tailText (u : Url) : EndsPath u.tailText.toList := by
  rw [EndsPath, tailText]
  cases u.query with
  | some q => simp [endsPath]
  | none =>
    cases u.fragment with
    | some f => simp [endsPath]
    | none => simp

theorem eq_none_of_tailText {u : Url} (h : u.tailText.toList = []) :
    u.query = none ∧ u.fragment = none := by
  rw [tailText] at h
  cases hquery : u.query with
  | some q => simp [hquery] at h
  | none =>
    cases hfragment : u.fragment with
    | some f => simp [hquery, hfragment] at h
    | none => exact ⟨rfl, rfl⟩

/-- Without a query and a fragment all is path. -/
theorem takeWhile_of_tail {web : Bool} {cs : List Char}
    (h : tail web (cs.dropWhile fun c => !endsPath c) = (none, none)) :
    cs.takeWhile (fun c => !endsPath c) = cs := by
  have happend := List.takeWhile_append_dropWhile (p := fun c => !endsPath c) (l := cs)
  cases hdrop : cs.dropWhile (fun c => !endsPath c) with
  | nil => rwa [hdrop, List.append_nil] at happend
  | cons c rest =>
    have hend : endsPath c = true := by
      have hfirst := List.head?_dropWhile_not (fun c => !endsPath c) cs
      rw [hdrop] at hfirst
      simpa using hfirst
    rw [hdrop] at h
    simp only [endsPath, Bool.or_eq_true, decide_eq_true_eq] at hend
    rcases hend with rfl | rfl
    · simp [tail] at h
    · simp [tail] at h

/-- What is read of a text ends in a character that shows. -/
theorem lt_of_getLast?_readable {s : String} {c : Char} (h : (readable s).getLast? = some c) :
    0x20 < c.toNat := by
  rw [readable] at h
  generalize (s.toList.dropWhile fun c => decide (c.toNat ≤ 0x20)).reverse = cs at h
  have hfirst := List.head?_dropWhile_not (fun c => decide (c.toNat ≤ 0x20)) cs
  cases hdrop : cs.dropWhile (fun c => decide (c.toNat ≤ 0x20)) with
  | nil =>
    rw [hdrop] at h
    cases h
  | cons d ds =>
    rw [hdrop] at h hfirst
    have hshow : 0x20 < d.toNat := by simpa using hfirst
    have hkeep : [d].filter (fun c => c ≠ '\t' && c ≠ '\n' && c ≠ '\r') = [d] :=
      List.filter_cons_of_pos (keeps_of_le (Nat.le_of_lt hshow))
    rw [List.reverse_cons, List.filter_append, hkeep, List.getLast?_concat] at h
    cases h
    exact hshow

/-- The text ends in a character that stays. -/
def EndsInStay (cs : List Char) : Prop := ∃ front z, cs = front ++ [z] ∧ Stays z

theorem EndsInStay.append {cs : List Char} (h : EndsInStay cs) (front : List Char) :
    EndsInStay (front ++ cs) := by
  obtain ⟨mid, z, rfl, hz⟩ := h
  exact ⟨front ++ mid, z, by rw [List.append_assoc], hz⟩

theorem endsInStay_spell (b : UInt8) : EndsInStay (Text.Percent.spell b) := by
  have hstays : ∀ n < 16, Text.isBlank (Text.Percent.spellDigit n) = false ∧
      0x20 < (Text.Percent.spellDigit n).toNat := by decide
  exact ⟨['%', Text.Percent.spellDigit (b.toNat / 16)], _, Text.Percent.spell_eq b,
    hstays _ (Nat.mod_lt b.toNat (by decide))⟩

theorem stays_of_inside {c : Char} (houtside : Text.Percent.isOutside c = false)
    (hshow : 0x20 < c.toNat) : Stays c := by
  refine ⟨?_, hshow⟩
  simp only [Text.Percent.isOutside, Bool.or_eq_false_iff, decide_eq_false_iff_not] at houtside
  simp only [Text.isBlank, Bool.or_eq_false_iff, Bool.and_eq_false_iff, decide_eq_false_iff_not,
    beq_eq_false_iff_ne]
  omega

theorem endsInStay_encodeChar {inSet : Char → Bool} {c : Char} (hshow : 0x20 < c.toNat) :
    EndsInStay (Text.Percent.encodeChar inSet c) := by
  rw [Text.Percent.encodeChar]
  split
  · rcases List.eq_nil_or_concat (Text.Utf8.encodeChar c) with hnil | ⟨bytes, b, hbytes⟩
    · exact absurd hnil (Text.Utf8.encodeChar_ne_nil c)
    · rw [hbytes, List.concat_eq_append, List.flatMap_append, List.flatMap_singleton]
      exact (endsInStay_spell b).append _
  · next hplain =>
    rw [Bool.or_eq_true, not_or, Bool.not_eq_true] at hplain
    exact ⟨[], c, rfl, stays_of_inside hplain.1 hshow⟩

theorem endsInStay_opaqueChars {cs : List Char} (hne : cs ≠ [])
    (hlast : ∀ c, cs.getLast? = some c → 0x20 < c.toNat)
    (hall : cs.takeWhile (fun c => !endsPath c) = cs) : EndsInStay (opaqueChars cs) := by
  rw [opaqueChars, hall]
  rcases List.eq_nil_or_concat cs with hnil | ⟨front, c, rfl⟩
  · exact absurd hnil hne
  · rw [List.concat_eq_append] at hlast ⊢
    rw [Text.Percent.encodeChars, List.flatMap_append, List.flatMap_singleton]
    exact (endsInStay_encodeChar (hlast c List.getLast?_concat)).append _

theorem restText_ofOpaque (scheme : String) (cs : List Char) :
    (ofOpaque scheme cs).restText.toList =
      opaqueChars cs ++ (ofOpaque scheme cs).tailText.toList := by
  have hauthority : (ofOpaque scheme cs).authorityText = "" := rfl
  have hpath : (ofOpaque scheme cs).path.text = String.ofList (opaqueChars cs) := rfl
  rw [restText, hauthority, hpath, String.empty_append, String.toList_append, String.toList_ofList]

theorem le_of_mem_opaqueChars {cs : List Char} {c : Char} (h : c ∈ opaqueChars cs) :
    0x20 ≤ c.toNat := by
  have houtside := (mem_opaqueChars h).1
  simp only [Text.Percent.isOutside, Bool.or_eq_false_iff, decide_eq_false_iff_not] at houtside
  omega

/-- A path without structure is written where it can be read again. -/
theorem parse?_text_ofOpaque {scheme : String} {cs : List Char} (hscheme : IsScheme scheme.toList)
    (hlast : ∀ c, cs.getLast? = some c → 0x20 < c.toNat) : ∃ back, EndsPath back ∧
      parse? (Text.trim (ofOpaque scheme cs).text) = behind? scheme (opaqueChars cs ++ back) := by
  have htext := restText_ofOpaque scheme cs
  cases htail : (ofOpaque scheme cs).tailText.toList with
  | cons c tail =>
    have hc : endsPath c = true := endsPath_tailText (ofOpaque scheme cs) c (by rw [htail]; rfl)
    have hstays : Stays c := by
      simp only [endsPath, Bool.or_eq_true, decide_eq_true_eq] at hc
      rcases hc with rfl | rfl
      · exact ⟨rfl, by decide⟩
      · exact ⟨rfl, by decide⟩
    rw [htail] at htext
    obtain ⟨back, -, hread⟩ :=
      parse?_text_of_front hscheme htext hstays fun c hc => le_of_mem_opaqueChars hc
    exact ⟨c :: back, fun d hd => by cases hd; exact hc, hread⟩
  | nil =>
    have hnone := eq_none_of_tailText htail
    have hall := takeWhile_of_tail (Prod.ext hnone.1 hnone.2)
    rw [htail, List.append_nil] at htext
    refine ⟨[], fun _ hd => (Option.not_mem_none _ hd).elim, ?_⟩
    rw [List.append_nil]
    by_cases hne : cs = []
    · obtain ⟨back, hsub, hread⟩ := parse?_text (u := ofOpaque scheme cs) hscheme
      rw [htext] at hsub
      have hempty : opaqueChars cs = [] := by rw [hne]; rfl
      rw [hempty] at hsub ⊢
      rw [hread, List.eq_nil_of_sublist_nil hsub]
      rfl
    · obtain ⟨front, z, hsplit, hz⟩ := endsInStay_opaqueChars hne hlast hall
      have hshow : ∀ c ∈ front, 0x20 ≤ c.toNat := fun c hc =>
        le_of_mem_opaqueChars (hsplit ▸ List.mem_append_left _ hc)
      rw [hsplit] at htext ⊢
      obtain ⟨back, hsub, hread⟩ := parse?_text_of_front hscheme htext hz hshow
      rw [hread, List.eq_nil_of_sublist_nil hsub]
      rfl

/-- **An address that names another names it in its text.** -/
theorem origin?_text_of_blob {u : Url} {s : String} (hparse : parse? s = some u)
    (hblob : u.scheme = "blob") : (parse? (Text.trim u.text)).bind origin? = u.origin? := by
  obtain ⟨hscheme, rest, hsuffix, hbehind⟩ := behind?_of_parse? hparse
  have hother : ∀ cs, behind? "blob" cs = other? "blob" cs := fun _ => rfl
  rw [hblob, hother] at hbehind
  by_cases hslash : rest.head? = some '/'
  · obtain ⟨cs, rfl⟩ := List.head?_eq_some_iff.mp hslash
    obtain ⟨⟨ss, hpath⟩, back, htext⟩ := path_of_other?_slash hbehind
    rw [← List.nil_append ('/' :: back)] at htext
    obtain ⟨back', -, hread⟩ := parse?_text_of_front hscheme htext
      (show Stays '/' from ⟨rfl, by decide⟩) (fun _ hc => (List.not_mem_nil hc).elim)
    rw [List.nil_append] at hread
    rw [hread, hblob, hother, origin?_of_segments hblob hpath, Option.bind_eq_none_iff]
    intro v hv
    obtain ⟨⟨ss', hpath'⟩, -⟩ := path_of_other?_slash hv
    exact origin?_of_segments (scheme_of_other? hv) hpath'
  · rw [other?_eq_ofOpaque hslash] at hbehind
    rw [hblob] at hscheme
    cases hbehind
    have hlast : ∀ c, rest.getLast? = some c → 0x20 < c.toNat := by
      obtain ⟨front, hfront⟩ := (List.suffix_cons ':' rest).trans hsuffix
      intro c hc
      refine lt_of_getLast?_readable (s := s) ?_
      rw [← hfront, List.getLast?_append, hc]
      rfl
    obtain ⟨back, hback, hread⟩ := parse?_text_ofOpaque hscheme hlast
    rw [hread, hother, other?_eq_ofOpaque (head?_opaqueChars hslash hback), Option.bind_some]
    refine origin?_eq_of_blob hblob hblob ?_
    exact congrArg (Path.opaqueText ∘ String.ofList) (opaqueChars_append hback)

/-! ## All addresses -/

/-- **The text of an address has the origin of the address**, if its host is read back. -/
theorem origin?_text {s : String} {u : Url} (hparse : parse? s = some u)
    (hhost : ∀ o, u.origin? = some o → o.host.ReadsBack) :
    (parse? (Text.trim u.text)).bind origin? = u.origin? := by
  by_cases hblob : u.scheme = "blob"
  · exact origin?_text_of_blob hparse hblob
  · cases husual : usualPort? u.scheme with
    | none =>
      obtain ⟨hnone, hnone'⟩ := origin?_text_of_other hparse husual hblob
      rw [hnone, hnone']
    | some usual => exact origin?_text_of_web hparse husual hhost

/-! ## What an address names -/

/-- An address under a scheme of the web names its own scheme, host and port; an address under the
scheme for addresses that name others names what the address in its path does. -/
inductive Names : Url → Origin → Prop where
  | own {u : Url} {a : Authority} {usual : Nat} : u.authority = some a →
      usualPort? u.scheme = some usual → Names u ⟨u.scheme, a.host, a.port.getD usual⟩
  | inner {u v : Url} {o : Origin} : u.scheme = "blob" → parse? u.path.text = some v →
      Names v o → Names u o

theorem names_of_ownOrigin? {u : Url} {o : Origin} (h : u.ownOrigin? = some o) : u.Names o := by
  rw [ownOrigin?] at h
  split at h
  · next ha husual =>
    cases h
    exact .own ha husual
  · cases h

/-- However deep an origin is looked for, what is found is named. -/
theorem names_of_originWithin? {o : Origin} : ∀ {steps : Nat} {u : Url},
    originWithin? steps u = some o → u.Names o
  | 0, _, h => names_of_ownOrigin? h
  | steps + 1, u, h => by
    rw [originWithin?] at h
    split at h
    · next hblob =>
      obtain ⟨v, hv, hinner⟩ := Option.bind_eq_some_iff.mp h
      exact .inner hblob hv (names_of_originWithin? hinner)
    · exact names_of_ownOrigin? h

/-- The host that is named was read under a scheme of the web. -/
theorem Names.host {u : Url} {o : Origin} (h : u.Names o) : ∀ {s : String}, parse? s = some u →
    ∃ cs, Host.web? cs = some o.host := by
  induction h with
  | own ha husual =>
    intro s hparse
    obtain ⟨-, rest, -, hbehind⟩ := behind?_of_parse? hparse
    obtain ⟨a', ha', hread, -⟩ := authority_of_behind? husual hbehind
    cases ha.symm.trans ha'
    exact hread.host
  | inner _ hv _ ih => exact fun _ => ih hv

end Url

/-! ## Keys -/

namespace Origin

/-- The key of a text that stands for itself. -/
def ownKey (s : String) : String :=
  String.ofList ((Text.trim s).toList.reverse.dropWhile (· = '/')).reverse

theorem key_eq (s : String) : key s =
    (((Url.parse? (Text.trim s)).bind Url.origin?).map text).getD (ownKey s) := by
  rw [key]
  cases (Url.parse? (Text.trim s)).bind Url.origin? with
  | none => rfl
  | some o => rfl

theorem key_of_parse? {s : String} {u : Url} (hparse : Url.parse? (Text.trim s) = some u) :
    key s = (u.origin?.map text).getD (ownKey s) := by
  rw [key_eq, hparse]
  rfl

/-- **The key of the text of an address** is that of its origin, if the host is read back; without
an origin the text stands for itself. -/
theorem key_text {s : String} {u : Url} (hparse : Url.parse? (Text.trim s) = some u)
    (hhost : ∀ o, u.origin? = some o → o.host.ReadsBack) :
    key u.text = (u.origin?.map text).getD (ownKey u.text) := by
  rw [key_eq, Url.origin?_text hparse hhost]

/-- The hosts that are addresses or plain names are read back. -/
theorem readsBack_of_parse? {s : String} {u : Url} (hparse : Url.parse? s = some u) {o : Origin}
    (ho : u.origin? = some o)
    (hplain : ∀ name, o.host = .name name → Idna.IsPlainName name.toList) : o.host.ReadsBack := by
  obtain ⟨cs, hread⟩ := (Url.names_of_originWithin? ho).host hparse
  exact Host.readsBack_of_web? hread hplain

end Origin

end AccessBroker
