/-
Authorities found again in the text of an address.

What is read of a text keeps a front that ends in a character that shows
(`readable_trim`), so the scheme is read back (`scheme?_append`). Behind it the
user, the host and the port are cut where they were put together
(`authority?_text`): the characters that would cut them elsewhere are spelled by
their bytes in a user, and no host or port holds them.
-/
import AccessBroker.Proofs.Text.Blank
import AccessBroker.Proofs.Url.Host

namespace AccessBroker

/-! ## What is read of a text -/

/-- A character that neither trimming nor reading drops at the ends of a text. -/
def Url.Stays (c : Char) : Prop := Text.isBlank c = false ∧ 0x20 < c.toNat

namespace Text

theorem dropEnd_append (p : Char → Bool) {z : Char} (hz : p z = false) (xs ys : List Char) :
    ((xs ++ z :: ys).reverse.dropWhile p).reverse = xs ++ z :: (ys.reverse.dropWhile p).reverse := by
  have hstop : (z :: xs.reverse).dropWhile p = z :: xs.reverse :=
    List.dropWhile_cons_of_neg (Bool.eq_false_iff.mp hz)
  rw [List.reverse_append, List.reverse_cons, List.append_assoc, List.singleton_append,
    List.dropWhile_append]
  split
  · next hempty =>
    rw [hstop, List.isEmpty_iff.mp hempty, List.reverse_cons, List.reverse_reverse]
    rfl
  · rw [List.reverse_append, List.reverse_cons, List.reverse_reverse, List.append_assoc]
    rfl

theorem dropEnd_sublist (p : Char → Bool) (xs : List Char) :
    (xs.reverse.dropWhile p).reverse.Sublist xs := by
  have h := (List.dropWhile_sublist p (l := xs.reverse)).reverse
  rwa [List.reverse_reverse] at h

end Text

namespace Url

theorem not_le_of_stays {c : Char} (h : Stays c) : decide (c.toNat ≤ 0x20) = false :=
  decide_eq_false (Nat.not_le_of_lt h.2)

theorem keeps_of_le {c : Char} (h : 0x20 ≤ c.toNat) :
    (decide (c ≠ '\t') && decide (c ≠ '\n') && decide (c ≠ '\r')) = true := by
  simp only [Bool.and_eq_true, decide_eq_true_eq, and_assoc]
  refine ⟨?_, ?_, ?_⟩
  all_goals rintro rfl; exact absurd h (by decide)

theorem dropWhile_front {front : List Char} {z : Char} {p : Char → Bool}
    (hfirst : ∀ a ∈ front.head?, p a = false) (hz : p z = false) (back : List Char) :
    (front ++ z :: back).dropWhile p = front ++ z :: back := by
  cases front with
  | nil => exact List.dropWhile_cons_of_neg (Bool.eq_false_iff.mp hz)
  | cons a front => exact List.dropWhile_cons_of_neg (Bool.eq_false_iff.mp (hfirst a rfl))

/-- Reading keeps a front that begins and ends with characters that stay. -/
theorem readable_front {front : List Char} {z : Char} (hfirst : ∀ a ∈ front.head?, Stays a)
    (hz : Stays z) (hfront : ∀ c ∈ front, 0x20 ≤ c.toNat) (back : List Char) :
    ∃ back', back'.Sublist back ∧
      readable (String.ofList (front ++ z :: back)) = front ++ z :: back' := by
  have hfilter : front.filter (fun c => c ≠ '\t' && c ≠ '\n' && c ≠ '\r') = front :=
    List.filter_eq_self.mpr fun c hc => keeps_of_le (hfront c hc)
  have hread : readable (String.ofList (front ++ z :: back)) = front ++
      z :: ((back.reverse.dropWhile fun c => c.toNat ≤ 0x20).reverse.filter
        fun c => c ≠ '\t' && c ≠ '\n' && c ≠ '\r') := by
    have hstart := dropWhile_front (p := fun c => c.toNat ≤ 0x20)
      (fun a ha => not_le_of_stays (hfirst a ha)) (not_le_of_stays hz) back
    have hend := Text.dropEnd_append (fun c => c.toNat ≤ 0x20) (not_le_of_stays hz) front back
    rw [readable, String.toList_ofList, hstart, hend, List.filter_append, hfilter]
    exact congrArg (front ++ ·) (List.filter_cons_of_pos (keeps_of_le (Nat.le_of_lt hz.2)))
  exact ⟨_, List.filter_sublist.trans (Text.dropEnd_sublist _ _), hread⟩

/-- Trimming and reading keep a front that begins and ends with characters that stay. -/
theorem readable_trim {front : List Char} {z : Char} (hfirst : ∀ a ∈ front.head?, Stays a)
    (hz : Stays z) (hfront : ∀ c ∈ front, 0x20 ≤ c.toNat) (back : List Char) :
    ∃ back', back'.Sublist back ∧
      readable (Text.trim (String.ofList (front ++ z :: back))) = front ++ z :: back' := by
  have htrim : Text.trim (String.ofList (front ++ z :: back)) =
      String.ofList (front ++ z :: Text.trimEnd back) := by
    have hstart := dropWhile_front (fun a ha => (hfirst a ha).1) hz.1 back
    rw [Text.trim, String.toList_ofList, Text.trimChars, Text.trimStart, hstart]
    exact congrArg String.ofList (Text.dropEnd_append _ hz.1 front back)
  obtain ⟨back', hsub, hread⟩ := readable_front hfirst hz hfront (Text.trimEnd back)
  rw [htrim]
  exact ⟨back', hsub.trans (Text.dropEnd_sublist _ _), hread⟩

/-! ## Schemes -/

/-- A scheme as it is written: a letter first, and no capital letters. -/
structure IsScheme (cs : List Char) : Prop where
  head : cs.head?.any Char.isAlpha = true
  small : ∀ c ∈ cs, isSchemeChar c = true ∧ Text.asciiLower c = c

theorem lt_of_isSchemeChar {c : Char} (h : isSchemeChar c = true) : c.toNat < 0x80 := by
  simp only [isSchemeChar, Bool.or_eq_true, decide_eq_true_eq] at h
  rcases h with ((h | rfl) | rfl) | rfl
  · exact Text.lt_of_isAlphanum h
  all_goals decide

/-- What holds of all characters of ASCII that may stand in a scheme holds of all that may. -/
theorem forall_isSchemeChar {P : Char → Prop}
    (h : ∀ n < 0x80, isSchemeChar (Char.ofNat n) = true → P (Char.ofNat n)) {c : Char}
    (hc : isSchemeChar c = true) : P c := by
  have hlow := h c.toNat (lt_of_isSchemeChar hc)
  rw [Char.ofNat_toNat] at hlow
  exact hlow hc

theorem asciiLower_schemeChar {c : Char} : isSchemeChar c = true →
    isSchemeChar (Text.asciiLower c) = true ∧
      Text.asciiLower (Text.asciiLower c) = Text.asciiLower c ∧
      (c.isAlpha = true → (Text.asciiLower c).isAlpha = true) :=
  forall_isSchemeChar (P := fun c => isSchemeChar (Text.asciiLower c) = true ∧
    Text.asciiLower (Text.asciiLower c) = Text.asciiLower c ∧
    (c.isAlpha = true → (Text.asciiLower c).isAlpha = true)) (by decide +kernel)

theorem stays_of_isSchemeChar {c : Char} : isSchemeChar c = true → Stays c :=
  forall_isSchemeChar (P := fun c => Text.isBlank c = false ∧ 0x20 < c.toNat) (by decide +kernel)

theorem isScheme_of_scheme? {cs rest : List Char} {scheme : String}
    (h : scheme? cs = some (scheme, rest)) : IsScheme scheme.toList := by
  cases cs with
  | nil => cases h
  | cons c cs =>
    rw [scheme?] at h
    split at h
    · next halpha =>
      split at h
      · cases h
        have hchars : ∀ d ∈ (c :: cs).takeWhile isSchemeChar, isSchemeChar d = true :=
          List.all_eq_true.mp List.all_takeWhile
        have hfirst : isSchemeChar c = true := by
          simp [isSchemeChar, Char.isAlphanum, halpha]
        rw [String.toList_ofList]
        constructor
        · rw [List.takeWhile_cons_of_pos hfirst, List.map_cons, List.head?_cons]
          exact (asciiLower_schemeChar hfirst).2.2 halpha
        · intro d hd
          obtain ⟨e, he, rfl⟩ := List.mem_map.mp hd
          obtain ⟨hscheme, hlower, -⟩ := asciiLower_schemeChar (hchars e he)
          exact ⟨hscheme, hlower⟩
      · cases h
    · cases h

theorem scheme?_append {cs : List Char} (h : IsScheme cs) (rest : List Char) :
    scheme? (cs ++ ':' :: rest) = some (String.ofList cs, rest) := by
  have hall : ∀ c ∈ cs, isSchemeChar c = true := fun c hc => (h.small c hc).1
  have hlower : cs.map Text.asciiLower = cs :=
    Eq.trans (List.map_congr_left fun c hc => (h.small c hc).2) (List.map_id _)
  have hdrop : (cs ++ ':' :: rest).dropWhile isSchemeChar = ':' :: rest :=
    List.dropWhile_append_of_pos hall
  have htake : (cs ++ ':' :: rest).takeWhile isSchemeChar = cs :=
    Text.takeWhile_append_stop hall rfl rest
  cases cs with
  | nil => exact absurd h.head (by decide)
  | cons c cs =>
    rw [List.cons_append] at hdrop htake
    rw [List.cons_append, scheme?, if_pos (show c.isAlpha = true from h.head), hdrop, htake, hlower]
    rfl

/-! ## Users -/

/-- A character that an authority may hold outside the signs that cut it. -/
def IsInner (c : Char) : Prop := endsAuthority true c = false ∧ c ≠ '@' ∧ 0x20 ≤ c.toNat

theorem isInner_of_mem_userText {cs : List Char} {c : Char} (h : c ∈ (userText cs).toList) :
    IsInner c := by
  have hspelled : ∀ c ∈ Text.Percent.spellChars,
      endsAuthority true c = false ∧ c ≠ '@' ∧ 0x20 ≤ c.toNat :=
    Text.forall_mem_of_all (by decide)
  rw [userText, String.toList_ofList] at h
  rcases Text.Percent.mem_encodeChars h with h | ⟨-, houtside, hplain⟩
  · exact hspelled c h
  · simp [inUser, Path.inPath] at hplain
    simp [Text.Percent.isOutside] at houtside
    simp [IsInner, endsAuthority, hplain, houtside]

theorem takeWhile_region {cs : List Char} (h : ∀ c ∈ cs, IsInner c ∨ c = '@') (back : List Char) :
    (cs ++ '/' :: back).takeWhile (fun c => !endsAuthority true c) = cs := by
  have hall : ∀ c ∈ cs, (!endsAuthority true c) = true := by
    intro c hc
    rcases h c hc with h | rfl
    · rw [h.1]
      rfl
    · rfl
  exact Text.takeWhile_append_stop hall rfl back

/-- Without a sign for a user there is none. -/
theorem user?_of_inner {cs : List Char} (h : ∀ c ∈ cs, IsInner c) (back : List Char) :
    user? true (cs ++ '/' :: back) = some (("", ""), cs ++ '/' :: back) := by
  have hnone : ¬cs.contains '@' = true := by
    rw [List.contains_iff_mem]
    exact fun hmem => (h _ hmem).2.1 rfl
  rw [user?, takeWhile_region (fun c hc => .inl (h c hc))]
  exact if_neg hnone

/-- A user is cut off at its sign. -/
theorem user?_append {who cs : List Char} (hne : who ≠ []) (hwho : ∀ c ∈ who, IsInner c)
    (h : ∀ c ∈ cs, IsInner c) (back : List Char) : ∃ user,
      user? true (who ++ '@' :: (cs ++ '/' :: back)) = some (user, cs ++ '/' :: back) := by
  have hregion : (who ++ '@' :: (cs ++ '/' :: back)).takeWhile (fun c => !endsAuthority true c) =
      who ++ '@' :: cs := by
    have hall : ∀ c ∈ who ++ '@' :: cs, IsInner c ∨ c = '@' := by
      intro c hc
      rcases List.mem_append.mp hc with hc | hc
      · exact .inl (hwho c hc)
      · rcases List.mem_cons.mp hc with rfl | hc
        · exact .inr rfl
        · exact .inl (h c hc)
    have htake := takeWhile_region hall back
    rwa [List.append_assoc, List.cons_append] at htake
  have hafter : ((who ++ '@' :: cs).reverse.takeWhile (· ≠ '@')).length = cs.length := by
    have hcs : ∀ c ∈ cs.reverse, decide (c ≠ '@') = true := fun c hc =>
      decide_eq_true (h c (List.mem_reverse.mp hc)).2.1
    rw [List.reverse_append, List.reverse_cons, List.append_assoc, List.singleton_append,
      Text.takeWhile_append_stop hcs rfl, List.length_reverse]
  have hcount : (who ++ '@' :: cs).length - cs.length - 1 = who.length := by
    rw [List.length_append, List.length_cons]
    omega
  have hdrop : (who ++ '@' :: (cs ++ '/' :: back)).drop (who.length + 1) = cs ++ '/' :: back := by
    simp
  have hsign : (who ++ '@' :: cs).contains '@' = true := by simp
  have hpos : ¬who.length = 0 := fun hzero => hne (List.length_eq_zero_iff.mp hzero)
  simp only [user?, hregion, hafter, hcount, hdrop, hsign, if_true, hpos, if_false]
  split
  · exact ⟨_, rfl⟩
  · exact ⟨_, rfl⟩

/-! ## Ports -/

/-- What stands for a port behind a host. -/
def portChars : Option Nat → List Char
  | some p => ':' :: Text.natDigits p
  | none => []

theorem isInner_of_mem_portChars {port : Option Nat} {c : Char} (h : c ∈ portChars port) :
    IsInner c := by
  have hdigit : ∀ c ∈ ':' :: Address.alphabet,
      endsAuthority true c = false ∧ c ≠ '@' ∧ 0x20 ≤ c.toNat :=
    Text.forall_mem_of_all (by decide)
  cases port with
  | none => cases h
  | some p =>
    refine hdigit c ?_
    rcases List.mem_cons.mp h with rfl | h
    · exact List.mem_cons_self
    · exact List.mem_cons_of_mem _ (AddressV4.natDigits_subset p h)

/-- A port that is told is read back. -/
theorem port?_portChars {scheme : String} {port : Option Nat}
    (h : ∀ p, port = some p → p ≤ 65535 ∧ usualPort? scheme ≠ some p) (back : List Char) :
    port? scheme (portChars port ++ '/' :: back) = some (port, '/' :: back) := by
  cases port with
  | none => rfl
  | some p =>
    obtain ⟨hlimit, husual⟩ := h p rfl
    have htake : (Text.natDigits p ++ '/' :: back).takeWhile (fun c => (Text.digit? c).isSome) =
        Text.natDigits p :=
      Text.takeWhile_append_stop (fun _ => Text.isSome_digit?_of_mem) rfl back
    have hne : (Text.natDigits p).isEmpty = false :=
      List.isEmpty_eq_false_iff.mpr (Text.natDigits_ne_nil p)
    simp only [portChars, List.cons_append, port?, htake, List.drop_left, List.head?_cons, hne,
      Text.digitsFrom_natDigits hlimit, husual]
    simp

/-! ## Authorities -/

namespace Authority

/-- What is known of an authority that was read under a scheme of the web. -/
structure IsRead (scheme : String) (a : Authority) : Prop where
  user : ∀ c ∈ a.user.toList ++ a.password.toList, IsInner c
  host : ∃ cs, Host.web? cs = some a.host
  port : ∀ p, a.port = some p → p ≤ 65535 ∧ usualPort? scheme ≠ some p

end Authority

theorem isInner_of_user? {web : Bool} {cs rest : List Char} {user password : String}
    (h : user? web cs = some ((user, password), rest)) :
    ∀ c ∈ user.toList ++ password.toList, IsInner c := by
  have hempty : ∀ c ∈ "".toList, IsInner c := fun c hc => by cases hc
  have hwritten : ∀ cs, ∀ c ∈ (userText cs).toList, IsInner c := fun _ _ => isInner_of_mem_userText
  rw [user?] at h
  dsimp only at h
  rw [List.forall_mem_append]
  split at h
  · split at h
    · split at h
      · cases h
      · cases h
        exact ⟨hempty, hempty⟩
    · split at h
      · cases h
        exact ⟨hwritten _, hwritten _⟩
      · cases h
        exact ⟨hwritten _, hempty⟩
  · cases h
    exact ⟨hempty, hempty⟩

theorem port_of_port? {scheme : String} {cs rest : List Char} {port : Option Nat}
    (h : port? scheme cs = some (port, rest)) :
    ∀ p, port = some p → p ≤ 65535 ∧ usualPort? scheme ≠ some p := by
  rintro p rfl
  unfold port? at h
  split at h
  · dsimp only at h
    split at h
    · split at h
      · cases h
      · split at h
        · next q hread =>
          rw [Option.some.injEq, Prod.mk.injEq] at h
          have hq := h.1
          split at hq
          · cases hq
          · next husual =>
            cases hq
            exact ⟨Text.le_of_digitsFrom (Nat.zero_le _) hread, husual⟩
        · cases h
    · cases h
  · cases h

theorem isRead_of_authority? {scheme : String} (hweb : isWeb scheme = true) {cs rest : List Char}
    {a : Authority} (h : authority? scheme cs = some (a, rest)) : a.IsRead scheme := by
  rw [authority?] at h
  simp only [hweb, if_true, Option.bind_eq_bind, Option.bind_eq_some_iff] at h
  obtain ⟨⟨⟨user, password⟩, cs₁⟩, huser, h⟩ := h
  obtain ⟨host, hhost, h⟩ := h
  split at h
  · cases h
  · obtain ⟨⟨port, cs₂⟩, hport, h⟩ := Option.bind_eq_some_iff.mp h
    cases h
    exact ⟨isInner_of_user? huser, ⟨_, hhost⟩, port_of_port? hport⟩

namespace Authority

/-- What stands for a user and a password in front of their sign. -/
def whoChars (a : Authority) : List Char :=
  a.user.toList ++ if a.password.isEmpty then [] else ':' :: a.password.toList

theorem IsRead.isInner_of_mem_whoChars {scheme : String} {a : Authority} (h : a.IsRead scheme)
    {c : Char} (hc : c ∈ a.whoChars) : IsInner c := by
  have hcolon : IsInner ':' := by
    rw [IsInner]
    decide
  rw [whoChars, List.mem_append] at hc
  rcases hc with hc | hc
  · exact h.user c (List.mem_append_left _ hc)
  · split at hc
    · cases hc
    · rcases List.mem_cons.mp hc with rfl | hc
      · exact hcolon
      · exact h.user c (List.mem_append_right _ hc)

theorem toList_text (a : Authority) : a.text.toList = a.whoChars ++
    ((if a.whoChars = [] then [] else ['@']) ++ (a.host.text.toList ++ portChars a.port)) := by
  rw [text, whoChars]
  -- The sign stands unless both are empty, and the port is written whatever they are.
  by_cases huser : a.user = "" <;> by_cases hpassword : a.password = "" <;> cases a.port
  all_goals simp [huser, hpassword, portChars, Text.natText]

theorem IsRead.isInner {scheme : String} {a : Authority} (h : a.IsRead scheme) :
    ∀ c ∈ a.host.text.toList ++ portChars a.port, IsInner c := by
  obtain ⟨cs, hread⟩ := h.host
  intro c hc
  rcases List.mem_append.mp hc with hc | hc
  · obtain ⟨hend, hsign, hshow⟩ := Host.mem_text_of_web? hread hc
    exact ⟨hend, hsign, Nat.le_of_lt hshow⟩
  · exact isInner_of_mem_portChars hc

/-- What stands in the text of an authority. -/
theorem IsRead.mem_text {scheme : String} {a : Authority} (h : a.IsRead scheme) :
    ∀ c ∈ a.text.toList, endsAuthority true c = false ∧ 0x20 ≤ c.toNat := by
  have hinner : ∀ {c}, IsInner c → endsAuthority true c = false ∧ 0x20 ≤ c.toNat :=
    fun hc => ⟨hc.1, hc.2.2⟩
  intro c hc
  rw [toList_text, List.mem_append, List.mem_append] at hc
  rcases hc with hc | hc | hc
  · exact hinner (h.isInner_of_mem_whoChars hc)
  · split at hc
    · cases hc
    · rw [List.mem_singleton.mp hc]
      decide
  · exact hinner (h.isInner c hc)

theorem IsRead.text_ne_nil {scheme : String} {a : Authority} (h : a.IsRead scheme) :
    a.text.toList ≠ [] := by
  obtain ⟨cs, hread⟩ := h.host
  rw [toList_text]
  refine List.append_ne_nil_of_right_ne_nil _ (List.append_ne_nil_of_right_ne_nil _ ?_)
  exact List.append_ne_nil_of_left_ne_nil (Host.text_ne_nil_of_web? hread) _

end Authority

/-- **An authority is found again** in front of a slash: its host and its port are read back. -/
theorem authority?_text {scheme : String} (hweb : isWeb scheme = true) {a : Authority}
    (h : a.IsRead scheme) (hhost : a.host.ReadsBack) (back : List Char) : ∃ a',
      authority? scheme (a.text.toList ++ '/' :: back) = some (a', '/' :: back) ∧
        a'.host = a.host ∧ a'.port = a.port := by
  obtain ⟨cs, hread⟩ := h.host
  have huser : ∃ user, user? true (a.text.toList ++ '/' :: back) =
      some (user, a.host.text.toList ++ portChars a.port ++ '/' :: back) := by
    rw [Authority.toList_text]
    by_cases hwho : a.whoChars = []
    · rw [if_pos hwho, hwho]
      exact ⟨_, user?_of_inner h.isInner back⟩
    · rw [if_neg hwho, List.append_assoc]
      exact user?_append hwho (fun c hc => h.isInner_of_mem_whoChars hc) h.isInner back
  obtain ⟨user, huser⟩ := huser
  have hrest : (portChars a.port ++ '/' :: back).head? = some ':' ∨
      (portChars a.port ++ '/' :: back).head? = some '/' := by
    cases a.port with
    | none => exact .inr rfl
    | some p => exact .inl rfl
  have hcut := Host.hostChars_text hread hrest
  have hport := port?_portChars h.port back
  have hback : Host.web? a.host.text.toList = some a.host := hhost
  have hfull := Host.isEmpty_of_web? hread
  rw [List.append_assoc] at huser
  refine ⟨⟨user.1, user.2, a.host, a.port⟩, ?_, rfl, rfl⟩
  simp only [authority?, hweb, huser, Option.bind_eq_bind, Option.bind_some, hcut, if_true, hback,
    hport, hfull]
  simp

end Url

end AccessBroker
