/-
Keys that tell origins apart.

An address that names another has it in a text that is shorter than what it was
read from, and that is read as it stands (`opaque_of_inner`), so the length of
the text is enough to find the origin at any depth (`origin?_eq_some_iff`). The
text of an origin is cut where it was put together: a scheme has no colon, a
host ends where it does in an address, and a host is found again from its text
alone (`ofText?_text`). So two addresses have one key exactly if they name the
same scheme, host and port (`key_eq_iff`).
-/
import AccessBroker.Proofs.Url.Origin

namespace AccessBroker

/-! ## Hosts told by their text -/

namespace Host

/-- Reads a host from a text in which nothing is left to spell or to map. -/
def ofText? : List Char → Option Host
  | '[' :: cs => bracketed? cs
  | cs => ofAscii? cs

theorem ofText?_of_not_isRefused {cs : List Char} (h : ∀ c ∈ cs, Idna.isRefused c = false) :
    ofText? cs = ofAscii? cs := by
  rw [ofText?]
  rintro _ rfl
  exact absurd (h '[' List.mem_cons_self) (by decide)

/-- Every host that is read under a scheme of the web is told by its text. -/
theorem ofText?_text {cs : List Char} {h : Host} (hread : web? cs = some h) :
    ofText? h.text.toList = some h := by
  cases h with
  | name s =>
    obtain ⟨hrefused, hascii⟩ := name_of_web? hread
    rw [text, ofText?_of_not_isRefused hrefused, hascii]
  | v4 a =>
    rw [text, AddressV4.text, String.toList_ofList,
      ofText?_of_not_isRefused (not_isRefused_chars a), ofAscii?_chars]
  | v6 a =>
    have hback := readsBack_v6 a
    rw [ReadsBack, text, String.toList_ofList, List.cons_append] at hback
    rw [text, String.toList_ofList, List.cons_append]
    exact hback

end Host

namespace Url

/-! ## How deep an origin stands -/

theorem readable_sublist (s : String) : (readable s).Sublist s.toList := by
  rw [readable]
  exact List.filter_sublist.trans
    ((Text.dropEnd_sublist _ _).trans (List.dropWhile_sublist _))

/-- A text that is spelled by its bytes where it has to be. -/
def IsSpelled (cs : List Char) : Prop := ∀ c ∈ cs, Text.Percent.isOutside c = false

theorem isSpelled_opaqueChars (cs : List Char) : IsSpelled (opaqueChars cs) := fun _ hc =>
  (mem_opaqueChars hc).1

theorem length_opaqueChars_le {cs : List Char} (h : IsSpelled cs) :
    (opaqueChars cs).length ≤ cs.length := by
  have htake := List.takeWhile_sublist (fun c => !endsPath c) (l := cs)
  rw [opaqueChars, encodeChars_eq_self fun c hc => ⟨h c (htake.subset hc), rfl⟩]
  exact htake.length_le

/-- The text of an address that is named is spelled, and stands behind a colon. -/
theorem opaque_of_inner {s : String} {u v : Url} (hparse : parse? s = some u)
    (hblob : u.scheme = "blob") (hv : parse? u.path.text = some v) :
    ∃ rest, ':' :: rest <:+ readable s ∧ u.path.text.toList = opaqueChars rest := by
  obtain ⟨-, rest, hsuffix, hbehind⟩ := behind?_of_parse? hparse
  have hother : behind? "blob" rest = other? "blob" rest := rfl
  rw [hblob, hother] at hbehind
  refine ⟨rest, hsuffix, ?_⟩
  by_cases hslash : rest.head? = some '/'
  · obtain ⟨cs, rfl⟩ := List.head?_eq_some_iff.mp hslash
    obtain ⟨⟨ss, hpath⟩, -⟩ := path_of_other?_slash hbehind
    rw [hpath, parse?_segments] at hv
    cases hv
  · rw [other?_eq_ofOpaque hslash] at hbehind
    cases hbehind
    exact String.toList_ofList

/-- The text of an address that is named is spelled, and shorter than a spelled text around it. -/
theorem length_of_inner {s : String} {u v : Url} (hparse : parse? s = some u)
    (hblob : u.scheme = "blob") (hv : parse? u.path.text = some v) (hs : IsSpelled s.toList) :
    u.path.text.toList.length < s.toList.length := by
  obtain ⟨rest, hsuffix, hpath⟩ := opaque_of_inner hparse hblob hv
  have hsublist := hsuffix.sublist.trans (readable_sublist s)
  have hrest : IsSpelled rest := fun c hc =>
    hs c (hsublist.subset (List.mem_cons_of_mem _ hc))
  calc u.path.text.toList.length
      = (opaqueChars rest).length := by rw [hpath]
    _ ≤ rest.length := length_opaqueChars_le hrest
    _ < (':' :: rest).length := Nat.lt_succ_self _
    _ ≤ s.toList.length := hsublist.length_le

theorem length_pos_of_parse? {s : String} {u : Url} (h : parse? s = some u) :
    0 < s.toList.length := by
  refine Nat.pos_of_ne_zero fun hzero => ?_
  obtain rfl := String.toList_eq_nil_iff.mp (List.length_eq_zero_iff.mp hzero)
  cases h

/-- As many steps as a spelled text has characters behind its first find what it names. -/
theorem originWithin?_of_names {u : Url} {o : Origin} (h : u.Names o) : ∀ {steps : Nat} {s : String},
    parse? s = some u → IsSpelled s.toList → s.toList.length ≤ steps + 1 →
      originWithin? steps u = some o := by
  induction h with
  | @own u a usual ha husual =>
    intro steps s _ _ _
    have hown : u.ownOrigin? = some ⟨u.scheme, a.host, a.port.getD usual⟩ := by
      rw [ownOrigin?, ha, husual]
    cases steps with
    | zero => exact hown
    | succ steps => rw [originWithin?, if_neg (ne_blob_of_usualPort? husual), hown]
  | inner hblob hv _ ih =>
    intro steps s hparse hs hlength
    have hshorter := length_of_inner hparse hblob hv hs
    have hpos := length_pos_of_parse? hv
    obtain ⟨rest, -, hpath⟩ := opaque_of_inner hparse hblob hv
    cases steps with
    | zero => omega
    | succ steps =>
      rw [originWithin?, if_pos hblob, hv]
      exact ih hv (hpath ▸ isSpelled_opaqueChars rest) (by omega)

/-- **The origin of an address is the one that it names.** -/
theorem origin?_eq_some_iff {s : String} {u : Url} (hparse : parse? s = some u) {o : Origin} :
    u.origin? = some o ↔ u.Names o := by
  constructor
  · exact names_of_originWithin?
  · intro h
    cases h with
    | own ha husual => rw [origin?_of_ne_blob (ne_blob_of_usualPort? husual), ownOrigin?, ha, husual]
    | inner hblob hv hnames =>
      have hpos := length_pos_of_parse? hv
      obtain ⟨rest, -, hpath⟩ := opaque_of_inner hparse hblob hv
      rw [String.length_toList] at hpos
      rw [origin?]
      cases hlength : u.path.text.length with
      | zero => omega
      | succ steps =>
        rw [originWithin?, if_pos hblob, hv]
        exact originWithin?_of_names hnames hv (hpath ▸ isSpelled_opaqueChars rest)
          (Nat.le_of_eq (String.length_toList.trans hlength))

/-! ## Schemes and ports -/

theorem colon_not_mem_of_usualPort? {scheme : String} {usual : Nat}
    (h : usualPort? scheme = some usual) : ':' ∉ scheme.toList := by
  have hall : ∀ e ∈ [("http", 80), ("https", 443), ("ws", 80), ("wss", 443), ("ftp", 21)],
      ':' ∉ (e : String × Nat).1.toList := by decide
  obtain ⟨front, back, heq, -⟩ := List.lookup_eq_some_iff.mp h
  exact hall (scheme, usual) (heq ▸ List.mem_append_right _ List.mem_cons_self)

/-- A scheme that is named is one of the web. -/
theorem Names.usual {u : Url} {o : Origin} (h : u.Names o) :
    ∃ usual, usualPort? o.scheme = some usual := by
  induction h with
  | own _ husual => exact ⟨_, husual⟩
  | inner _ _ _ ih => exact ih

theorem portChars_injective {port port' : Option Nat} (h : portChars port = portChars port') :
    port = port' := by
  cases port with
  | none =>
    cases port' with
    | none => rfl
    | some q => cases h
  | some p =>
    cases port' with
    | none => cases h
    | some q => exact congrArg some (Text.natDigits_injective (List.cons.inj h).2)

/-- A host and a port are told by what is written of them one after the other. -/
theorem host_port_injective {cs cs' : List Char} {h h' : Host} (hread : Host.web? cs = some h)
    (hread' : Host.web? cs' = some h') {port port' : Option Nat}
    (heq : h.text.toList ++ portChars port = h'.text.toList ++ portChars port') :
    h = h' ∧ port = port' := by
  -- A slash behind both makes the hosts end as they do in addresses.
  have hend : ∀ port : Option Nat, (portChars port ++ ['/']).head? = some ':' ∨
      (portChars port ++ ['/']).head? = some '/' := by
    intro port
    cases port with
    | none => exact .inr rfl
    | some p => exact .inl rfl
  have hcut := congrArg (fun xs => hostChars true false (xs ++ ['/'])) heq
  simp only [List.append_assoc, Host.hostChars_text hread (hend _),
    Host.hostChars_text hread' (hend _), Prod.mk.injEq] at hcut
  obtain ⟨hhost, hport⟩ := hcut
  have htold := Host.ofText?_text hread
  rw [hhost, Host.ofText?_text hread', Option.some.injEq] at htold
  exact ⟨htold.symm, portChars_injective (List.append_cancel_right hport)⟩

end Url

/-! ## Origins told by their text -/

namespace Origin

/-- The port of an origin as it is written. -/
def told (o : Origin) : Option Nat :=
  if Url.usualPort? o.scheme = some o.port then none else some o.port

theorem port_of_told {o o' : Origin} {usual : Nat} (husual : Url.usualPort? o.scheme = some usual)
    (hscheme : o.scheme = o'.scheme) (h : o.told = o'.told) : o.port = o'.port := by
  rw [told, told, ← hscheme, husual] at h
  split at h <;> split at h
  · next hport hport' => exact Option.some.inj (hport.symm.trans hport')
  · cases h
  · cases h
  · exact Option.some.inj h

theorem toList_text (o : Origin) : o.text.toList =
    o.scheme.toList ++ ':' :: ("//".toList ++ (o.host.text.toList ++ Url.portChars o.told)) := by
  rw [text, told]
  split
  · simp [Url.portChars]
  · simp [Url.portChars, Text.natText]

/-- **The text of an origin tells its scheme, its host and its port**, if they were read. -/
theorem text_eq_iff {u u' : Url} {s s' : String} (hparse : Url.parse? s = some u)
    (hparse' : Url.parse? s' = some u') {o o' : Origin} (ho : u.Names o) (ho' : u'.Names o') :
    o.text = o'.text ↔ o.scheme = o'.scheme ∧ o.host = o'.host ∧ o.port = o'.port := by
  constructor
  · intro htext
    obtain ⟨usual, husual⟩ := ho.usual
    obtain ⟨usual', husual'⟩ := ho'.usual
    obtain ⟨cs, hread⟩ := ho.host hparse
    obtain ⟨cs', hread'⟩ := ho'.host hparse'
    have hcut := congrArg (Text.splitFirst? ':') (congrArg String.toList htext)
    rw [toList_text, toList_text,
      Text.splitFirst?_append _ (Url.colon_not_mem_of_usualPort? husual),
      Text.splitFirst?_append _ (Url.colon_not_mem_of_usualPort? husual'), Option.some.injEq,
      Prod.mk.injEq] at hcut
    obtain ⟨hscheme, hback⟩ := hcut
    obtain ⟨hhost, hport⟩ := Url.host_port_injective hread hread' (List.append_cancel_left hback)
    have hscheme : o.scheme = o'.scheme := String.toList_inj.mp hscheme
    exact ⟨hscheme, hhost, port_of_told husual hscheme hport⟩
  · rintro ⟨hscheme, hhost, hport⟩
    rw [text, text, hscheme, hhost, hport]

/-! ## Keys -/

/-- **Keys tell apart the origins that addresses name**, and nothing else: two addresses have the
same key exactly if they name the same scheme, the same host and the same port. -/
theorem key_eq_iff {s s' : String} {u u' : Url} {o o' : Origin}
    (hparse : Url.parse? (Text.trim s) = some u) (hparse' : Url.parse? (Text.trim s') = some u')
    (ho : u.Names o) (ho' : u'.Names o') :
    key s = key s' ↔ o.scheme = o'.scheme ∧ o.host = o'.host ∧ o.port = o'.port := by
  rw [key_of_parse? hparse, key_of_parse? hparse', (Url.origin?_eq_some_iff hparse).mpr ho,
    (Url.origin?_eq_some_iff hparse').mpr ho']
  exact text_eq_iff hparse hparse' ho ho'

/-- An address with much that its origin leaves out, and its spelling. -/
def sampleUrl : Url :=
  ⟨"https", some ⟨"user", "", .name "viewer.example.org", none⟩, .segments ["a", "b"], some "q",
    some "f"⟩

def sampleSpelling : String := " HTTPS://user@Viewer.Example.org:443/a/b?q#f\n"

/-- An address that names the same origin by the address in its path, and its spelling. -/
def blobUrl : Url := ⟨"blob", none, .opaqueText "https://viewer.example.org/x", none, none⟩

def blobSpelling : String := "blob:https://viewer.example.org/x"

/-- An address at another port, and its spelling. -/
def portedUrl : Url :=
  ⟨"https", some ⟨"", "", .name "viewer.example.org", some 8443⟩, .segments [""], none, none⟩

def portedSpelling : String := "https://viewer.example.org:8443"

theorem parse?_sampleSpelling : Url.parse? (Text.trim sampleSpelling) = some sampleUrl := by
  decide +kernel

theorem parse?_blobSpelling : Url.parse? (Text.trim blobSpelling) = some blobUrl := by
  decide +kernel

theorem names_sampleUrl : sampleUrl.Names ⟨"https", .name "viewer.example.org", 443⟩ :=
  (Url.origin?_eq_some_iff parse?_sampleSpelling).mp (by decide +kernel)

theorem names_blobUrl : blobUrl.Names ⟨"https", .name "viewer.example.org", 443⟩ :=
  (Url.origin?_eq_some_iff parse?_blobSpelling).mp (by decide +kernel)

/-- Two spellings of one origin have one key, and one with another port has another. -/
theorem key_sampleSpelling :
    (Url.parse? (Text.trim sampleSpelling) = some sampleUrl ∧
      Url.parse? (Text.trim blobSpelling) = some blobUrl ∧
      Url.parse? (Text.trim portedSpelling) = some portedUrl) ∧
    (sampleUrl.Names ⟨"https", .name "viewer.example.org", 443⟩ ∧
      blobUrl.Names ⟨"https", .name "viewer.example.org", 443⟩ ∧
      portedUrl.Names ⟨"https", .name "viewer.example.org", 8443⟩) ∧
    key sampleSpelling = key blobSpelling ∧ key sampleSpelling ≠ key portedSpelling := by
  have hported : Url.parse? (Text.trim portedSpelling) = some portedUrl := by decide +kernel
  have hnames : portedUrl.Names ⟨"https", .name "viewer.example.org", 8443⟩ :=
    (Url.origin?_eq_some_iff hported).mp (by decide +kernel)
  refine ⟨⟨parse?_sampleSpelling, parse?_blobSpelling, hported⟩,
    ⟨names_sampleUrl, names_blobUrl, hnames⟩, ?_, ?_⟩
  · exact (key_eq_iff parse?_sampleSpelling parse?_blobSpelling names_sampleUrl names_blobUrl).mpr
      ⟨rfl, rfl, rfl⟩
  · intro h
    obtain ⟨-, -, hport⟩ := (key_eq_iff parse?_sampleSpelling hported names_sampleUrl hnames).mp h
    exact absurd hport (by decide)

/-- Addresses with origins can have one key under different schemes. -/
theorem key_blobSpelling :
    (Url.parse? (Text.trim blobSpelling) = some blobUrl ∧
      Url.parse? (Text.trim sampleSpelling) = some sampleUrl) ∧
    (blobUrl.origin?.isSome = true ∧ sampleUrl.origin?.isSome = true) ∧
    key blobSpelling = key sampleSpelling ∧ blobUrl.scheme ≠ sampleUrl.scheme := by
  refine ⟨⟨parse?_blobSpelling, parse?_sampleSpelling⟩, ⟨?_, ?_⟩, ?_, ?_⟩
  all_goals decide +kernel

end Origin

end AccessBroker
