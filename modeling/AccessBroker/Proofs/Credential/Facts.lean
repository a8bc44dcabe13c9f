/-
Which bytes read as the facts of a cookie.

The facts of every address are written in one way: the same sixteen characters
in front (`front`), and characters behind them that need no escape and never
look like the end of a name again (`back`, `length_eq_of_back_eq`). A reader
allows many other spellings, but each holds the text of an address in quotes. So
no spelling has less than sixteen bytes, and one alone has no more
(`le_length_of_ofBytes?`). If any sixteen bytes are put in front of the end of
some facts and the whole reads as facts, then nothing was changed
(`eq_front_of_ofBytes?`): the last byte asks for an object, the object for the
name of the address, and that name has its end in what follows the sixteen
bytes, which leaves no room for another spelling of its start.
-/
import AccessBroker.Proofs.Credential.AccessCookie
import AccessBroker.Proofs.Json.Shape

namespace AccessBroker.AccessCookie

open Text.Utf8 (encodeChars)
open Json (Tree Token unquote?)

/-! ## How the facts are written -/

/-- The first sixteen characters of all facts. -/
def front : List Char := "\x7b\"client-ip-addr".toList

/-- The characters behind the address. -/
def closing (campus degraded : Bool) : List Char :=
  '"' :: ',' :: (Json.memberChars
    [("campus-network", .bool campus), ("degraded-allowed", .bool degraded)] ++ ['\x7d'])

/-- The characters after the first sixteen. -/
def back (a : Address) (campus degraded : Bool) : List Char :=
  "ess\":\"".toList ++ (a.canonicalText.toList ++ closing campus degraded)

theorem escape_of_subset : ∀ {cs : List Char}, cs ⊆ Address.alphabet → Json.escape cs = cs
  | [], _ => rfl
  | c :: cs, h => by
    have hplain : ∀ d ∈ Address.alphabet, Json.escapeChar d = [d] :=
      Text.forall_mem_of_all (by decide)
    rw [List.cons_subset] at h
    have ih := escape_of_subset h.2
    rw [Json.escape] at ih
    rw [Json.escape, List.flatMap_cons, hplain c h.1, ih]
    rfl

theorem bytes_of (a : Address) (campus degraded : Bool) :
    (of a campus degraded).bytes = encodeChars (front ++ back a campus degraded) := by
  have haddress := escape_of_subset a.canonical.text_subset
  have hfront : front ++ "ess\":\"".toList =
      '\x7b' :: (Json.quoteChars "client-ip-address" ++ [':', '"']) := by decide +kernel
  have hchars : (of a campus degraded).toJson.chars = front ++ back a campus degraded := by
    rw [back, ← List.append_assoc, hfront, toJson, Json.chars, Json.memberChars]
    · simp [of, Address.canonicalText, closing, Json.chars, Json.quoteChars, haddress]
    · intro h
      cases h
  rw [bytes, Json.write, Text.Utf8.encode, String.toList_ofList, hchars]

theorem isPlain_front : ∀ c ∈ front, 0x20 ≤ c.toNat ∧ c.toNat < 0x80 :=
  Text.forall_mem_of_all (by decide)

theorem isPlain_back (a : Address) (campus degraded : Bool) :
    ∀ c ∈ back a campus degraded, 0x20 ≤ c.toNat ∧ c.toNat < 0x80 ∧ c ≠ '\\' := by
  have hname : ∀ c ∈ "ess\":\"".toList, 0x20 ≤ c.toNat ∧ c.toNat < 0x80 ∧ c ≠ '\\' :=
    Text.forall_mem_of_all (by decide)
  have haddress : ∀ c ∈ Address.alphabet, 0x20 ≤ c.toNat ∧ c.toNat < 0x80 ∧ c ≠ '\\' :=
    Text.forall_mem_of_all (by decide)
  have hall : ∀ campus degraded, ((closing campus degraded).all fun c =>
      decide (0x20 ≤ c.toNat ∧ c.toNat < 0x80 ∧ c ≠ '\\')) = true := by decide +kernel
  intro c hc
  rw [back, List.mem_append, List.mem_append] at hc
  rcases hc with hc | hc | hc
  · exact hname c hc
  · exact haddress c (a.canonical.text_subset hc)
  · exact Text.forall_mem_of_all (hall campus degraded) c hc

theorem getLast?_back (a : Address) (campus degraded : Bool) :
    (back a campus degraded).getLast? = some '\x7d' := by
  have hback : back a campus degraded =
      "ess\":\"".toList ++ (a.canonicalText.toList ++ '"' :: ',' :: Json.memberChars
        [("campus-network", .bool campus), ("degraded-allowed", .bool degraded)]) ++ ['\x7d'] := by
    simp only [back, closing, List.append_assoc, List.cons_append]
  rw [hback]
  exact List.getLast?_concat

/-- Behind the front a name that ends in `s` ends in one place only. -/
theorem length_eq_of_back_eq {a : Address} {campus degraded : Bool} {before behind : List Char}
    (h : back a campus degraded = before ++ 's' :: '"' :: behind) : before.length = 2 := by
  have hs : (back a campus degraded)[before.length]? = some 's' := by
    rw [h, List.getElem?_append_right (Nat.le_refl _), Nat.sub_self]
    rfl
  have hquote : (back a campus degraded)[before.length + 1]? = some '"' := by
    rw [h, List.getElem?_append_right (Nat.le_succ _), Nat.succ_sub (Nat.le_refl _), Nat.sub_self]
    rfl
  have hname : ∀ i < 6, "ess\":\"".toList[i]? = some 's' →
      "ess\":\"".toList[i + 1]? = some '"' → i = 2 := by decide
  have hclosing : ∀ campus degraded, ∀ i < (closing campus degraded).length,
      (closing campus degraded)[i]? = some 's' → (closing campus degraded)[i + 1]? ≠ some '"' := by
    decide +kernel
  have haddress : 's' ∉ Address.alphabet := by decide
  generalize before.length = i at hs hquote
  rw [back] at hs hquote
  have hlength : "ess\":\"".toList.length = 6 := rfl
  by_cases hi : i < 6
  · refine hname i hi ?_ ?_
    · rwa [List.getElem?_append_left (by omega)] at hs
    · by_cases hi' : i + 1 < 6
      · rwa [List.getElem?_append_left (by omega)] at hquote
      · have : i = 5 := by omega
        subst this
        cases hs
  · rw [List.getElem?_append_right (by omega), hlength] at hs hquote
    rw [show i + 1 - 6 = i - 6 + 1 by omega] at hquote
    generalize i - 6 = j at hs hquote
    by_cases hj : j < a.canonicalText.toList.length
    · rw [List.getElem?_append_left hj] at hs
      exact absurd (a.canonical.text_subset (List.mem_of_getElem? hs)) haddress
    · rw [List.getElem?_append_right (by omega)] at hs hquote
      rw [show j + 1 - a.canonicalText.toList.length =
        j - a.canonicalText.toList.length + 1 by omega] at hquote
      have hlt := (List.getElem?_eq_some_iff.mp hs).1
      exact absurd hquote (hclosing campus degraded _ hlt hs)

/-! ## What reads as facts -/

/-- The tokens of facts in an array. -/
def arrayTokens (address : List UInt8) (campus degraded : Bool) : List Token :=
  [.openArray, .quoted address, .comma, .bool campus, .comma, .bool degraded] ++ [.closeArray]

theorem length_arrayTokens (address : List UInt8) (campus degraded : Bool) :
    ((arrayTokens address campus degraded).flatMap Token.bytes).length =
      address.length + (Token.bool campus).bytes.length + (Token.bool degraded).bytes.length + 6 := by
  simp only [arrayTokens, List.cons_append, List.nil_append, List.flatMap_cons, List.flatMap_nil,
    List.length_append, List.length_nil]
  change 1 + ((address ++ [0x22]).length + 1 + (1 + (_ + (1 + (_ + 1))))) = _
  rw [List.length_append, List.length_singleton]
  omega

/-- Facts are three values in their order, or an object that gives the name of each. -/
theorem lie_of_ofBytes? {bytes : List UInt8} {c : AccessCookie} (h : ofBytes? bytes = some c) :
    ∃ address, unquote? address = some c.address ∧
      (Token.Lie (arrayTokens address c.campus c.degraded) bytes ∨
        ∃ name before behind, unquote? name = some "client-ip-address" ∧
          Token.Lie (.openObject :: before ++ .quoted name :: .colon :: .quoted address ::
            (behind ++ [.closeObject])) bytes) := by
  obtain ⟨t, ht, h⟩ := Option.bind_eq_some_iff.mp h
  obtain ⟨parts, hparts, h⟩ := Option.bind_eq_some_iff.mp h
  have hlie := Tree.lie_of_ofBytes? ht
  split at h
  case h_2 => cases h
  case h_1 t₁ t₂ t₃ =>
  obtain ⟨address, haddress, h⟩ := Option.bind_eq_some_iff.mp h
  obtain ⟨campus, hcampus, h⟩ := Option.bind_eq_some_iff.mp h
  obtain ⟨degraded, hdegraded, h⟩ := Option.bind_eq_some_iff.mp h
  cases h
  obtain ⟨inside, rfl, hinside⟩ := Tree.exists_of_text? haddress
  obtain rfl := Tree.eq_of_bool? hcampus
  obtain rfl := Tree.eq_of_bool? hdegraded
  refine ⟨inside, hinside, ?_⟩
  rcases Json.Record.cases_of_ofTree? hparts with
    ⟨elements, rfl, helements⟩ | ⟨members, name, rfl, hname, hmem⟩
  · left
    match elements, helements with
    | [e₁, e₂], helements =>
      cases helements
      exact hlie
  · right
    obtain ⟨before, behind, htokens⟩ := Tree.exists_flatMembers_eq hmem
    refine ⟨name, before, behind, hname, ?_⟩
    rw [Tree.flat, htokens] at hlie
    simpa [Tree.flat] using hlie

/-- The facts of the address whose text is shortest, in their shortest spelling. -/
def shortest : List UInt8 := encodeChars "[\"::\",true,true]".toList

theorem four_le_length_bool (b : Bool) :
    4 ≤ (Token.bool b).bytes.length ∧ ((Token.bool b).bytes.length = 4 → b = true) := by
  cases b <;> decide

/-- Facts with the text of an address in them take sixteen bytes at least, and there is one way to
spell them in no more. -/
theorem le_length_of_ofBytes? {bytes : List UInt8} {c : AccessCookie} (h : ofBytes? bytes = some c)
    {a : Address} (hc : c.address = a.canonicalText) :
    16 ≤ bytes.length ∧ (bytes.length = 16 → bytes = shortest ∧ c = ⟨"::", true, true⟩) := by
  obtain ⟨address, haddress, hlie⟩ := lie_of_ofBytes? h
  obtain ⟨htwo, hcolons⟩ := a.canonical.two_le_length_text
  have hle := Json.length_le_of_unquote? haddress
  rw [← Address.canonicalText, ← hc] at htwo hcolons
  rcases hlie with hlie | ⟨name, before, behind, hname, hlie⟩
  · have hlength := hlie.length_le
    have htokens := length_arrayTokens address c.campus c.degraded
    obtain ⟨hcampus, hcampus'⟩ := four_le_length_bool c.campus
    obtain ⟨hdegraded, hdegraded'⟩ := four_le_length_bool c.degraded
    refine ⟨by omega, fun hsixteen => ?_⟩
    have hcampus := hcampus' (by omega)
    have hdegraded := hdegraded' (by omega)
    have hcolons := hcolons (by omega)
    have hbytes := hlie.eq_of_length_le (by omega)
    rcases Json.eq_or_length_lt_of_unquote? haddress with hinside | hlt
    · rw [hbytes, hinside, hcolons, hcampus, hdegraded]
      have hfacts : c = ⟨c.address, c.campus, c.degraded⟩ := rfl
      refine ⟨rfl, hfacts.trans ?_⟩
      rw [hcolons, hcampus, hdegraded]
    · omega
  · have hlength := hlie.length_le
    have hseventeen := Json.length_le_of_unquote? hname
    change 17 ≤ _ at hseventeen
    simp only [List.flatMap_cons, List.flatMap_append, List.length_append, Token.bytes,
      List.length_cons] at hlength
    exact ⟨by omega, fun hsixteen => by omega⟩

/-! ## Sixteen bytes in front of the end of some facts -/

/-- A name that reaches past the sixteen bytes has its end in what stands behind them. Unless all of
it stands there, what stands there begins with its end. -/
theorem exists_of_append_eq {front before name behind : List UInt8} {ds : List Char}
    (hascii : ∀ d ∈ ds, d.toNat < 0x80) (hlong : front.length ≤ before.length + name.length)
    (h : front ++ encodeChars ds = before ++ 0x22 :: (name ++ 0x22 :: behind)) :
    ∃ free left fixed right, name = free ++ encodeChars fixed ∧
      ds = left ++ (fixed ++ '"' :: right) ∧
      (free = [] ∨ left = [] ∧ front = before ++ 0x22 :: free) := by
  have hquote : 0x22 :: behind = encodeChars ['"'] ++ behind := rfl
  rw [show before ++ 0x22 :: (name ++ 0x22 :: behind) =
    (before ++ [0x22]) ++ (name ++ 0x22 :: behind) by simp, hquote] at h
  rcases List.append_eq_append_iff.mp h with ⟨outer, hbefore, hds⟩ | ⟨free, rfl, hds⟩
  · rw [← List.append_assoc] at hds
    obtain ⟨cs, right, rfl, hcs⟩ := Text.Utf8.exists_cons_of_encodeChars_eq hascii hds
    obtain ⟨left, fixed, rfl, -, rfl⟩ := Text.Utf8.exists_append_of_encodeChars_eq
      (fun d hd => hascii d (List.mem_append_left _ hd)) hcs.symm
    exact ⟨[], left, fixed, right, rfl, by simp, .inl rfl⟩
  · rcases List.append_eq_append_iff.mp hds with ⟨more, rfl, -⟩ | ⟨fixed, rfl, hfixed⟩
    · simp only [List.length_append, List.length_singleton] at hlong
      omega
    · obtain ⟨fixed, right, rfl, rfl⟩ := Text.Utf8.exists_cons_of_encodeChars_eq hascii hfixed
      exact ⟨free, [], fixed, right, rfl, rfl, .inr ⟨rfl, by simp⟩⟩

/-- What stands behind the sixteen bytes ends as all facts do, so they are no array. -/
theorem getLast?_append_encodeChars {a : Address} {campus degraded : Bool} (bytes : List UInt8)
    {ds : List Char} (hne : ds ≠ []) (hds : ds <:+ back a campus degraded) :
    (bytes ++ encodeChars ds).getLast? = some 0x7D := by
  obtain ⟨before, hback⟩ := hds
  have hlast := getLast?_back a campus degraded
  rw [← hback, List.getLast?_append_of_ne_nil _ hne] at hlast
  have hascii : ∀ d ∈ ds, d.toNat < 0x80 := fun d hd =>
    (isPlain_back a campus degraded d (hback ▸ List.mem_append_right before hd)).2.1
  rw [Text.Utf8.encodeChars_ascii hascii, List.getLast?_append_of_ne_nil _ (by simpa using hne),
    List.getLast?_map, hlast]
  rfl

/-- A name that ends in what stands behind the sixteen bytes ends where the first name of all facts
does, so the free bytes are fourteen, and no escape is among them. -/
theorem eq_of_unquote? {a : Address} {campus degraded : Bool} {before left fixed right : List Char}
    {free : List UInt8} (hback : back a campus degraded = before ++ (left ++ (fixed ++ '"' :: right)))
    (hfree : free.length ≤ 14)
    (hname : unquote? (free ++ encodeChars fixed) = some "client-ip-address") :
    before = [] ∧ left = [] ∧ free = encodeChars "client-ip-addr".toList := by
  have hplain := isPlain_back a campus degraded
  have hfixed : ∀ d ∈ fixed, 0x20 ≤ d.toNat ∧ d.toNat < 0x80 ∧ d ≠ '\\' := fun d hd =>
    hplain d (by rw [hback]; simp [hd])
  have hascii : ∀ d ∈ fixed, d.toNat < 0x80 := fun d hd => (hfixed d hd).2.1
  obtain ⟨cs, n, hread, hcs⟩ := Json.exists_of_unquote?_append hascii
    (fun hd => (hfixed _ hd).2.2 rfl) hname
  have hlength := congrArg List.length hread
  rw [List.length_append, List.length_drop] at hlength
  change 17 = _ at hlength
  have hlast : fixed.getLast? = some 's' := by
    have hlast := congrArg List.getLast? hread
    rw [List.getLast?_append_of_ne_nil _ (List.ne_nil_of_length_pos (by rw [List.length_drop]; omega)),
      List.getLast?_drop, if_neg (by omega)] at hlast
    exact hlast.symm
  obtain ⟨init, rfl⟩ : ∃ init, fixed = init ++ ['s'] :=
    ⟨fixed.dropLast, (List.dropLast_append_getLast? 's' hlast).symm⟩
  have hsplit : back a campus degraded = (before ++ (left ++ init)) ++ 's' :: '"' :: right := by
    rw [hback]
    simp
  have hplace := length_eq_of_back_eq hsplit
  simp only [List.length_append, List.length_singleton] at hlength hplace
  obtain rfl := List.length_eq_zero_iff.mp (show before.length = 0 by omega)
  obtain rfl := List.length_eq_zero_iff.mp (show left.length = 0 by omega)
  refine ⟨rfl, rfl, ?_⟩
  have hthree : (encodeChars (init ++ ['s'])).length = 3 := by
    rw [Text.Utf8.encodeChars_ascii hascii, List.length_map, List.length_append,
      List.length_singleton]
    omega
  rcases Json.eq_or_length_lt_of_unquote? hname with heq | hlt
  · have hsplit : encodeChars "client-ip-address".toList =
        encodeChars "client-ip-addr".toList ++ encodeChars "ess".toList := rfl
    rw [hsplit] at heq
    exact List.append_inj_left' heq hthree
  · rw [List.length_append, hthree] at hlt
    change 17 < _ at hlt
    omega

/-- **Sixteen bytes in front of the end of some facts** give facts only if they are the front of all
facts, and the end is all that stands behind that front. -/
theorem eq_front_of_ofBytes? {a : Address} {campus degraded : Bool} {bytes : List UInt8}
    (hbytes : bytes.length = 16) {ds : List Char} (hne : ds ≠ [])
    (hds : ds <:+ back a campus degraded) {c : AccessCookie}
    (h : ofBytes? (bytes ++ encodeChars ds) = some c) :
    bytes = encodeChars front ∧ ds = back a campus degraded := by
  have hlast := getLast?_append_encodeChars bytes hne hds
  obtain ⟨address, -, hlie | ⟨name, before, behind, hname, hlie⟩⟩ := lie_of_ofBytes? h
  · rcases hlie.getLast_of_concat hlast with hspace | ⟨_, rfl, hclose⟩
    · cases hspace
    · cases hclose
  · obtain ⟨outer, hback⟩ := hds
    obtain ⟨start, rest, hsplit, hstart⟩ := hlie.exists_quoted
    have hseventeen := Json.length_le_of_unquote? hname
    change 17 ≤ _ at hseventeen
    have hascii : ∀ d ∈ ds, d.toNat < 0x80 := fun d hd =>
      (isPlain_back a campus degraded d (hback ▸ List.mem_append_right outer hd)).2.1
    obtain ⟨free, left, fixed, right, rfl, rfl, hfree⟩ :=
      exists_of_append_eq hascii (by omega) hsplit
    rcases hfree with rfl | ⟨rfl, rfl⟩
    · obtain ⟨-, -, hempty⟩ := eq_of_unquote? hback.symm (Nat.zero_le _) hname
      cases hempty
    · have hopen : ∀ ts, (List.flatMap Token.bytes (.openObject :: ts)) =
          0x7B :: ts.flatMap Token.bytes := fun _ => rfl
      have hfirst := hstart.length_le
      have honly := hstart.eq_of_length_le
      rw [hopen, List.length_cons] at hfirst honly
      rw [List.length_append, List.length_cons] at hbytes
      obtain ⟨rfl, -, rfl⟩ := eq_of_unquote? hback.symm (by omega) hname
      change start.length + 15 = 16 at hbytes
      have hbytes' : start.length = 1 := by omega
      have hnone : before.flatMap Token.bytes = [] := List.length_eq_zero_iff.mp (by omega)
      rw [hnone] at honly
      rw [honly (by rw [hbytes']; exact Nat.le_refl _)]
      exact ⟨rfl, hback⟩

end AccessBroker.AccessCookie
