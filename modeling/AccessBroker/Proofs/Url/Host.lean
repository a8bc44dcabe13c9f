/-
Hosts read back from their text.

The characters of a host that was read under a scheme of the web neither end an
authority nor are taken for a user or a port (`mem_text_of_web?`), so the host
is found where it ends (`hostChars_text`). Read again it is the same host if it
is an address, of either version, or a name that is in plain ASCII
(`readsBack_of_web?`).
-/
import AccessBroker.Proofs.Address.V6
import AccessBroker.Proofs.Idna.Domain
import AccessBroker.Proofs.Text.Percent
import AccessBroker.Url.Basic

namespace AccessBroker

/-! ## Bytes that spell nothing -/

theorem Text.Percent.decodeBytes_of_not_mem : ∀ {bytes : List UInt8}, 0x25 ∉ bytes →
    decodeBytes bytes = bytes
  | [], _ => rfl
  | b :: bytes, h => by
    rw [List.mem_cons, not_or] at h
    rw [decodeBytes_of_ne (Ne.symm h.1), decodeBytes_of_not_mem h.2]

/-- Plain characters without a percent sign stand for themselves. -/
theorem Text.Percent.decodeChars?_of_plain {cs : List Char} (hascii : ∀ c ∈ cs, c.toNat < 0x80)
    (hpercent : '%' ∉ cs) :
    Utf8.decodeChars? (decodeBytes (Utf8.encodeChars cs)) = some cs := by
  rw [decodeBytes_of_not_mem, Utf8.decodeChars?_encodeChars]
  intro hmem
  rw [Utf8.encodeChars_ascii hascii, List.mem_map] at hmem
  obtain ⟨c, hc, hbyte⟩ := hmem
  have hnat := congrArg UInt8.toNat hbyte
  rw [Utf8.toNat_ofNat_of_lt (Nat.lt_trans (hascii c hc) (by decide))] at hnat
  have hchar : c = '%' := Char.toNat_inj.mp hnat
  exact hpercent (hchar ▸ hc)

namespace Host

/-- A host that is read back from its text, under a scheme of the web. -/
def ReadsBack (h : Host) : Prop := web? h.text.toList = some h

/-! ## Names -/

theorem web?_of_plain {cs : List Char} (hplain : Idna.IsPlainName cs)
    (hrefused : ∀ c ∈ cs, Idna.isRefused c = false) : web? cs = ofAscii? cs := by
  have hpercent : '%' ∉ cs := fun hmem => absurd (hrefused _ hmem) (by decide)
  rw [web?, Text.Percent.decodeChars?_of_plain (fun c hc => (hplain.small c hc).1) hpercent]
  · exact congrArg (Option.bind · ofAscii?) (Idna.toAscii?_plain hplain hrefused)
  · rintro _ rfl
    exact absurd (hrefused '[' List.mem_cons_self) (by decide)

/-- Where a host that is read comes from. -/
theorem cases_of_web? {cs : List Char} {h : Host} (hread : web? cs = some h) :
    (∃ a, h = .v6 a) ∨ ∃ name, (∀ c ∈ name, Idna.isRefused c = false) ∧ ofAscii? name = some h := by
  unfold web? at hread
  split at hread
  · rw [bracketed?] at hread
    split at hread
    · obtain ⟨a, -, rfl⟩ := Option.map_eq_some_iff.mp hread
      exact .inl ⟨a, rfl⟩
    · cases hread
  · obtain ⟨plain, -, hread⟩ := Option.bind_eq_some_iff.mp hread
    obtain ⟨name, hname, hread⟩ := Option.bind_eq_some_iff.mp hread
    exact .inr ⟨name, Idna.not_isRefused_of_toAscii? hname, hread⟩

theorem cases_of_ofAscii? {cs : List Char} {h : Host} (hread : ofAscii? cs = some h) :
    (∃ a, h = .v4 a) ∨ (h = .name (String.ofList cs) ∧ cs ≠ [] ∧ endsInNumber cs = false) := by
  rw [ofAscii?] at hread
  split at hread
  · cases hread
  · next hne =>
    split at hread
    · obtain ⟨a, -, rfl⟩ := Option.map_eq_some_iff.mp hread
      exact .inl ⟨a, rfl⟩
    · next hnumber =>
      refine .inr ⟨(Option.some.inj hread).symm, ?_, Bool.eq_false_iff.mpr hnumber⟩
      rintro rfl
      exact hne rfl

/-- A name that is read holds no character that a host may not hold, and is no number. -/
theorem name_of_web? {cs : List Char} {s : String} (hread : web? cs = some (.name s)) :
    (∀ c ∈ s.toList, Idna.isRefused c = false) ∧ ofAscii? s.toList = some (.name s) := by
  rcases cases_of_web? hread with ⟨a, h⟩ | ⟨name, hrefused, hascii⟩
  · cases h
  · rcases cases_of_ofAscii? hascii with ⟨a, h⟩ | ⟨h, -, -⟩
    · cases h
    · cases h
      rw [String.toList_ofList]
      exact ⟨hrefused, hascii⟩

/-! ## Version 4 -/

theorem digitsValue?_map {base : Nat} (hbase : base ≤ 16) : ∀ (ds : List Nat) (v : Nat),
    (∀ d ∈ ds, d < base) →
      (ds.map Nat.digitChar).foldl (fun value c => do
        let v ← value
        let d ← Text.hexDigit? c
        if d < base then some (v * base + d) else none) (some v) =
        some (ds.foldl (fun v d => base * v + d) v)
  | [], v, _ => rfl
  | d :: ds, v, hds => by
    have hd := hds d List.mem_cons_self
    rw [List.map_cons, List.foldl_cons, List.foldl_cons, Option.bind_eq_bind, Option.bind_some,
      Text.hexDigit?_digitChar d (Nat.lt_of_lt_of_le hd hbase), Option.bind_some, if_pos hd,
      Nat.mul_comm v base]
    exact digitsValue?_map hbase ds _ fun e he => hds e (List.mem_cons_of_mem d he)

theorem digitsValue?_natDigits (n : Nat) : digitsValue? 10 (Text.natDigits n) = some n := by
  have hvalue := digitsValue?_map (show 10 ≤ 16 by decide) (Text.digitsIn 8 n) 0
    fun d hd => Text.lt_of_mem_digitsIn hd
  rwa [Text.foldl_digitsIn 8 n, ← Text.natDigits_eq_map] at hvalue

/-- A number in decimal has no zero in front, so it is read as it is meant. -/
theorem number?_natDigits (n : Nat) : number? (Text.natDigits n) = some n := by
  have hvalue := digitsValue?_natDigits n
  rw [Text.natDigits_eq_map] at hvalue ⊢
  cases hds : Text.digitsIn 8 n with
  | nil => exact absurd hds (Text.digitsIn_ne_nil 8 n)
  | cons d ds =>
    have hd : d < 10 := Text.lt_of_mem_digitsIn (hds ▸ List.mem_cons_self)
    rw [hds, List.map_cons] at hvalue
    by_cases hzero : d = 0
    · rw [hzero] at hds
      obtain ⟨rfl, rfl⟩ := Text.eq_zero_of_digitsIn hds
      rw [hzero]
      rfl
    · have hchar : Nat.digitChar d ≠ '0' := fun h => hzero (AddressV4.digitChar_ne_zero d hd h)
      rw [List.map_cons, ← hvalue]
      exact number?.eq_5 _ (by simp) (by simp [hchar]) (by simp [hchar]) (by simp [hchar])

theorem v4OfNumbers?_four {a b c d : Nat} (ha : a ≤ 255) (hb : b ≤ 255) (hc : c ≤ 255)
    (hd : d ≤ 255) : v4OfNumbers? [a, b, c, d] = some (.ofOctets a b c d) := by
  have hfit : ¬(3 < 3 ∨ Nat.pow 256 (4 - 3) ≤ d ∨ [c, b, a].any (255 < ·) = true) := by
    have hpow : Nat.pow 256 (4 - 3) = 256 := rfl
    simp only [hpow, List.any_cons, List.any_nil, Bool.or_false, Bool.or_eq_true, decide_eq_true_eq]
    omega
  refine (if_neg hfit).trans ?_
  simp [AddressV4.ofOctets]

theorem dotParts_chars (a : AddressV4) : dotParts a.chars = a.octets.map Text.natDigits := by
  rw [dotParts, AddressV4.splitAll_chars]
  exact if_neg fun h => Text.natDigits_ne_nil _ (Option.some.inj h.2)

theorem endsInNumber_of_getLast? {cs last : List Char} (hlast : (dotParts cs).getLast? = some last)
    (hne : last ≠ []) (hdigits : ∀ c ∈ last, (Text.digit? c).isSome = true) :
    endsInNumber cs = true := by
  rw [endsInNumber, hlast]
  cases last with
  | nil => exact absurd rfl hne
  | cons c cs => exact Bool.or_eq_true_iff.mpr (.inl (List.all_eq_true.mpr hdigits))

/-- The text of an address is the name of its address. -/
theorem ofAscii?_chars (a : AddressV4) : ofAscii? a.chars = some (.v4 a) := by
  have hbits := a.bits.isLt
  have hlength := AddressV4.seven_le_length_chars a
  have hne : ¬a.chars.isEmpty = true := by
    rw [List.isEmpty_iff]
    intro h
    rw [h] at hlength
    exact absurd hlength (by decide)
  have hlast : (dotParts a.chars).getLast? = some (Text.natDigits (a.bits.toNat % 256)) := by
    rw [dotParts_chars]
    rfl
  have hnumber : endsInNumber a.chars = true :=
    endsInNumber_of_getLast? hlast (Text.natDigits_ne_nil _) fun _ => Text.isSome_digit?_of_mem
  have hread : v4OfName? a.chars = some a := by
    rw [v4OfName?, dotParts_chars, Idna.mapM_map_eq_some fun n _ => number?_natDigits n]
    refine (v4OfNumbers?_four ?_ ?_ ?_ ?_).trans (congrArg some (AddressV4.ofOctets_octets a))
    all_goals omega
  rw [ofAscii?, if_neg hne, if_pos hnumber, hread]
  rfl

theorem isPlainName_chars (a : AddressV4) : Idna.IsPlainName a.chars := by
  have hsmall : ∀ c ∈ Address.alphabet, c.toNat < 0x80 ∧ Text.asciiLower c = c :=
    Text.forall_mem_of_all (by decide)
  refine ⟨fun c hc => hsmall c (AddressV4.chars_subset a hc), ?_⟩
  intro part hpart
  rw [AddressV4.splitAll_chars] at hpart
  obtain ⟨n, -, rfl⟩ := List.mem_map.mp hpart
  refine Idna.signed?_of_head fun h => ?_
  exact Text.not_mem_toDigits (b := 8) (by decide) (List.mem_of_head? h)

theorem not_isRefused_chars (a : AddressV4) : ∀ c ∈ a.chars, Idna.isRefused c = false := by
  have hallowed : ∀ c ∈ Address.alphabet, c ≠ ':' → Idna.isRefused c = false :=
    Text.forall_mem_of_all (by decide)
  intro c hc
  refine hallowed c (AddressV4.chars_subset a hc) ?_
  rintro rfl
  exact AddressV4.colon_not_mem_chars a hc

/-! ## Read back -/

theorem readsBack_v6 (a : AddressV6) : (Host.v6 a).ReadsBack := by
  have hlast : (a.plainChars ++ [']']).getLast? = some ']' := List.getLast?_concat
  rw [ReadsBack, text, String.toList_ofList, List.cons_append]
  change bracketed? (a.plainChars ++ [']']) = _
  rw [bracketed?, if_pos hlast, List.dropLast_concat, AddressV6.ofChars?_plainChars]
  rfl

theorem readsBack_v4 (a : AddressV4) : (Host.v4 a).ReadsBack := by
  rw [ReadsBack, text, AddressV4.text, String.toList_ofList,
    web?_of_plain (isPlainName_chars a) (not_isRefused_chars a), ofAscii?_chars]

/-- **A host is read back from its text** if it is an address or a plain name. -/
theorem readsBack_of_web? {cs : List Char} {h : Host} (hread : web? cs = some h)
    (hplain : ∀ s, h = .name s → Idna.IsPlainName s.toList) : h.ReadsBack := by
  cases h with
  | v4 a => exact readsBack_v4 a
  | v6 a => exact readsBack_v6 a
  | name s =>
    obtain ⟨hrefused, hascii⟩ := name_of_web? hread
    rw [ReadsBack, text, web?_of_plain (hplain s rfl) hrefused, hascii]

/-! ## Where a host ends -/

/-- What stands in the text of a host. -/
theorem mem_text_of_web? {cs : List Char} {h : Host} (hread : web? cs = some h) {c : Char}
    (hc : c ∈ h.text.toList) : Url.endsAuthority true c = false ∧ c ≠ '@' ∧ 0x20 < c.toNat := by
  have haddress : ∀ c ∈ '[' :: ']' :: Address.alphabet,
      Url.endsAuthority true c = false ∧ c ≠ '@' ∧ 0x20 < c.toNat :=
    Text.forall_mem_of_all (by decide)
  cases h with
  | name s =>
    have hrefused := (name_of_web? hread).1 c hc
    simp [Idna.isRefused] at hrefused
    simp [Url.endsAuthority, hrefused]
  | v4 a =>
    rw [text, AddressV4.text, String.toList_ofList] at hc
    exact haddress c (by simp [AddressV4.chars_subset a hc])
  | v6 a =>
    rw [text, String.toList_ofList, List.mem_append, List.mem_cons, List.mem_singleton] at hc
    rcases hc with (rfl | hc) | rfl
    · exact haddress _ (by simp)
    · exact haddress c (by simp [AddressV6.plainChars_subset a hc])
    · exact haddress _ (by simp)

theorem hostChars_append {web bracket : Bool} (rest : List Char) : ∀ {cs : List Char},
    (∀ c ∈ cs, Url.endsAuthority web c = false ∧ c ≠ '[' ∧ c ≠ ']' ∧ (c = ':' → bracket = true)) →
      Url.hostChars web bracket (cs ++ rest) =
        (cs ++ (Url.hostChars web bracket rest).1, (Url.hostChars web bracket rest).2)
  | [], _ => rfl
  | c :: cs, h => by
    obtain ⟨hend, hopen, hclose, hcolon⟩ := h c List.mem_cons_self
    have ih := hostChars_append rest fun d hd => h d (List.mem_cons_of_mem c hd)
    have hgo : ¬(Url.endsAuthority web c || (c = ':' && !bracket)) = true := by
      rw [hend, Bool.false_or]
      simpa using hcolon
    rw [List.cons_append, Url.hostChars, if_neg hgo, if_neg hopen, if_neg hclose, ih]
    rfl

theorem hostChars_bare {cs rest : List Char} (hend : Url.hostChars true false rest = ([], rest))
    (h : ∀ c ∈ cs, Idna.isRefused c = false) :
    Url.hostChars true false (cs ++ rest) = (cs, rest) := by
  rw [hostChars_append, hend, List.append_nil]
  intro c hc
  have hrefused := h c hc
  simp [Idna.isRefused] at hrefused
  simp [Url.endsAuthority, hrefused]

theorem hostChars_brackets {cs rest : List Char} (hend : Url.hostChars true false rest = ([], rest))
    (h : cs ⊆ Address.alphabet) :
    Url.hostChars true false ('[' :: (cs ++ ']' :: rest)) = ('[' :: (cs ++ [']']), rest) := by
  have hinner : ∀ c ∈ Address.alphabet,
      Url.endsAuthority true c = false ∧ c ≠ '[' ∧ c ≠ ']' :=
    Text.forall_mem_of_all (by decide)
  have hopen : ∀ xs, Url.hostChars true false ('[' :: xs) =
      ('[' :: (Url.hostChars true true xs).1, (Url.hostChars true true xs).2) := fun _ => rfl
  have hclose : Url.hostChars true true (']' :: rest) =
      (']' :: (Url.hostChars true false rest).1, (Url.hostChars true false rest).2) := rfl
  have hchars : ∀ c ∈ cs, Url.endsAuthority true c = false ∧ c ≠ '[' ∧ c ≠ ']' ∧
      (c = ':' → true = true) := by
    intro c hc
    obtain ⟨hnot, hleft, hright⟩ := hinner c (h hc)
    exact ⟨hnot, hleft, hright, fun _ => rfl⟩
  rw [hopen, hostChars_append (']' :: rest) hchars, hclose, hend]

/-- A host ends at a colon for the port or a slash for the path. -/
theorem hostChars_text {cs rest : List Char} {h : Host} (hread : web? cs = some h)
    (hrest : rest.head? = some ':' ∨ rest.head? = some '/') :
    Url.hostChars true false (h.text.toList ++ rest) = (h.text.toList, rest) := by
  have hend : Url.hostChars true false rest = ([], rest) := by
    cases rest with
    | nil => simp at hrest
    | cons c rest =>
      simp only [List.head?_cons, Option.some.injEq] at hrest
      rcases hrest with rfl | rfl
      · rfl
      · rfl
  cases h with
  | name s => exact hostChars_bare hend (name_of_web? hread).1
  | v4 a =>
    rw [text, AddressV4.text, String.toList_ofList]
    exact hostChars_bare hend (not_isRefused_chars a)
  | v6 a =>
    rw [text, String.toList_ofList, List.append_assoc, List.cons_append, List.singleton_append]
    exact hostChars_brackets hend (AddressV6.plainChars_subset a)

theorem isEmpty_of_web? {cs : List Char} {h : Host} (hread : web? cs = some h) :
    h.isEmpty = false := by
  cases h with
  | name s =>
    rcases cases_of_ofAscii? (name_of_web? hread).2 with ⟨a, h⟩ | ⟨-, hne, -⟩
    · cases h
    · rw [isEmpty, Bool.eq_false_iff, ne_eq, String.isEmpty_iff]
      rintro rfl
      exact hne rfl
  | v4 a => rfl
  | v6 a => rfl

theorem text_ne_nil_of_web? {cs : List Char} {h : Host} (hread : web? cs = some h) :
    h.text.toList ≠ [] := by
  cases h with
  | name s =>
    have hne := isEmpty_of_web? hread
    rw [isEmpty, Bool.eq_false_iff, ne_eq, String.isEmpty_iff] at hne
    exact fun h => hne (String.toList_eq_nil_iff.mp h)
  | v4 a =>
    have hlength := AddressV4.seven_le_length_chars a
    rw [text, AddressV4.text, String.toList_ofList]
    intro h
    rw [h] at hlength
    exact absurd hlength (by decide)
  | v6 a =>
    rw [text, String.toList_ofList]
    exact List.cons_ne_nil _ _

end Host

end AccessBroker
