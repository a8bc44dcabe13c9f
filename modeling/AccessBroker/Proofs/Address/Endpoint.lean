/-
The grammar of endpoints.

A host names an address of version 4 in dots, or one of version 6, to which a scope may be added
behind a percent sign (`Names`). Brackets are no part of it: an endpoint is read from a host with a
port behind it exactly if the host names it, whether it stands bare (`ofPlain?_eq_some_iff`), or in
the brackets that one with colons needs (`ofBracketed?_eq_some_iff`).
-/
import AccessBroker.Address.Endpoint
import AccessBroker.Proofs.Address.Literal

namespace AccessBroker

open AddressV4 (IsDotted)
open AddressV6 (IsLiteral Spell)
open Text (IsNumeral)

/-! ## Characters of a literal -/

/-- Parts that are put together have a colon between them. -/
theorem AddressV6.Spell.colon_mem {parts : List (List Char)} {gs : List Nat}
    (h : Spell true parts gs) (hlength : gs.length = 8) : ':' ∈ List.intercalate [':'] parts := by
  cases h with
  | nil => cases hlength
  | dotted => cases hlength
  | group _ tail =>
    cases tail with
    | nil => cases hlength
    | group => simp
    | dotted => simp

theorem AddressV6.IsLiteral.colon_mem {cs : List Char} {a : AddressV6} (h : IsLiteral cs a) :
    ':' ∈ cs := by
  rcases h with ⟨parts, gs, rfl, hparts, hlength, -⟩ | ⟨front, back, gs, hs, rfl, -⟩
  · exact hparts.colon_mem hlength
  · simp

/-- Nothing but digits, colons and dots stands in a literal. -/
theorem AddressV6.IsLiteral.not_mem {cs : List Char} {a : AddressV6} (h : IsLiteral cs a) {c : Char}
    (hcolon : c ≠ ':') (hdot : c ≠ '.') (hdigit : ∀ d < 16, Text.asciiLower c ≠ Nat.digitChar d) :
    c ∉ cs := by
  have hparts : ∀ {closing parts gs}, Spell closing parts gs → c ∉ List.intercalate [':'] parts := by
    intro closing parts gs hspell hc
    rcases Text.mem_of_mem_intercalate hc with heq | ⟨part, hpart, hc⟩
    · exact hcolon heq
    · exact hspell.not_mem hdot hdigit part hpart hc
  rcases h with ⟨parts, gs, rfl, hrow, -⟩ | ⟨front, back, gs, hs, rfl, hfront, hback, -⟩
  · exact hparts hrow
  · simp [hparts hfront, hparts hback, hcolon]

namespace Endpoint

/-! ## Hosts -/

/-- What a host names at a port. -/
inductive Names (port : Nat) : List Char → Endpoint → Prop
  | dotted {host : List Char} {a : AddressV4} (h : IsDotted host a) : Names port host (v4 a port)
  | literal {host : List Char} {a : AddressV6} (h : IsLiteral host a) :
    Names port host (v6 a 0 port)
  | withScope {host scope : List Char} {a : AddressV6} {n : Nat} (h : IsLiteral host a)
    (hscope : IsNumeral scope n) (hn : n ≤ 4294967295) :
    Names port (host ++ '%' :: scope) (v6 a n port)

variable {port : Nat} {host : List Char} {e : Endpoint}

/-- A host in dots has no colon, and all others have one. -/
theorem Names.cases_colon (h : Names port host e) :
    (':' ∉ host ∧ ∃ a, e = v4 a port ∧ IsDotted host a) ∨ (':' ∈ host ∧ ∃ a n, e = v6 a n port) := by
  cases h with
  | dotted h => exact .inl ⟨h.not_mem (by decide) (by decide), _, rfl, h⟩
  | literal h => exact .inr ⟨h.colon_mem, _, 0, rfl⟩
  | withScope h => exact .inr ⟨List.mem_append_left _ h.colon_mem, _, _, rfl⟩

/-- There are no brackets in a host. -/
theorem Names.bracket_not_mem (h : Names port host e) : '[' ∉ host ∧ ']' ∉ host := by
  cases h with
  | dotted h => exact ⟨h.not_mem (by decide) (by decide), h.not_mem (by decide) (by decide)⟩
  | literal h =>
    exact ⟨h.not_mem (by decide) (by decide) (by decide),
      h.not_mem (by decide) (by decide) (by decide)⟩
  | withScope h hscope =>
    have hopen := h.not_mem (c := '[') (by decide) (by decide) (by decide)
    have hclose := h.not_mem (c := ']') (by decide) (by decide) (by decide)
    simp [hopen, hclose, hscope.not_mem (c := '[') (by decide),
      hscope.not_mem (c := ']') (by decide)]

/-! ## What is read -/

theorem number?_eq_some_iff {limit n : Nat} {cs : List Char} :
    number? limit cs = some n ↔ n ≤ limit ∧ IsNumeral cs n := by
  rw [number?]
  split
  · next hempty =>
    simp only [reduceCtorEq, false_iff, not_and]
    exact fun _ h => h.ne_nil (List.isEmpty_iff.mp hempty)
  · next hempty =>
    rw [← Text.digitsFrom_zero_eq_ok_iff (mt List.isEmpty_iff.mpr hempty)]
    cases Text.digitsFrom limit 0 cs <;> simp [Except.toOption]

theorem number?_natDigits (hport : port ≤ 65535) : number? 65535 (Text.natDigits port) = some port :=
  number?_eq_some_iff.mpr ⟨hport, Text.isNumeral_natDigits port⟩

/-- What is read inside brackets is what a host with colons names. -/
theorem scoped?_eq_some_iff {a : AddressV6} {n : Nat} :
    scoped? host = some (a, n) ↔ Names port host (v6 a n port) := by
  rw [scoped?]
  constructor
  · intro h
    split at h
    · next front scope hsplit =>
      obtain ⟨rfl, -⟩ := Text.splitFirst?_eq_some_iff.mp hsplit
      simp only [Option.bind_eq_bind, Option.bind_eq_some_iff, AddressV6.ofChars?_eq_some_iff,
        number?_eq_some_iff, Option.some.injEq] at h
      obtain ⟨b, hb, m, ⟨hm, hscope⟩, heq⟩ := h
      cases heq
      exact .withScope hb hscope hm
    · obtain ⟨b, hb, heq⟩ := Option.map_eq_some_iff.mp h
      cases heq
      exact .literal (AddressV6.ofChars?_eq_some_iff.mp hb)
  · intro h
    cases h with
    | literal h =>
      have hplain : Text.splitFirst? '%' host = none := by
        rw [Option.eq_none_iff_forall_ne_some]
        intro parts hparts
        have hpercent := h.not_mem (c := '%') (by decide) (by decide) (by decide)
        rw [(Text.splitFirst?_eq_some_iff.mp hparts).1] at hpercent
        exact hpercent (by simp)
      rw [hplain]
      dsimp only
      rw [AddressV6.ofChars?_eq_some_iff.mpr h]
      rfl
    | withScope h hscope hn =>
      rw [Text.splitFirst?_append _ (h.not_mem (by decide) (by decide) (by decide))]
      dsimp only
      rw [AddressV6.ofChars?_eq_some_iff.mpr h, number?_eq_some_iff.mpr ⟨hn, hscope⟩]
      rfl

/-- A host between brackets, with a port behind them. -/
theorem ofBracketed?_eq_some_iff (hport : port ≤ 65535) :
    ofBracketed? ('[' :: (host ++ ']' :: ':' :: Text.natDigits port)) = some e ↔
      ':' ∈ host ∧ Names port host e := by
  constructor
  · intro h
    rw [ofBracketed?] at h
    simp only [Option.bind_eq_bind, Option.bind_eq_some_iff] at h
    obtain ⟨⟨inside, after⟩, hsplit, ⟨a, n⟩, hinside, h⟩ := h
    split at h
    · next digits hafter =>
      obtain rfl : after = ':' :: digits := hafter
      simp only [Option.bind_eq_some_iff, number?_eq_some_iff] at h
      obtain ⟨p, ⟨hp, hdigits⟩, heq⟩ := h
      obtain ⟨hwhole, hinner⟩ := Text.splitFirst?_eq_some_iff.mp hsplit
      -- No bracket closes behind this one, since only digits of a port follow, so it closed the host.
      have hdigit : ']' ∉ ':' :: digits := by simp [hdigits.not_mem (c := ']') (by decide)]
      obtain ⟨rfl, -, hbehind⟩ := (List.append_cons_inj_of_notMem hinner hdigit).mp hwhole.symm
      obtain rfl := (List.cons.inj hbehind).2
      obtain rfl : p = port := hdigits.unique (Text.isNumeral_natDigits port)
      cases heq
      have hnames : Names p inside (v6 a n p) := scoped?_eq_some_iff.mp hinside
      rcases hnames.cases_colon with ⟨-, b, heq, -⟩ | ⟨hcolon, -⟩
      · cases heq
      · exact ⟨hcolon, hnames⟩
    · cases h
  · rintro ⟨hcolon, h⟩
    rcases h.cases_colon with ⟨hnone, -⟩ | ⟨-, a, n, rfl⟩
    · exact absurd hcolon hnone
    · rw [ofBracketed?, Text.splitFirst?_append _ h.bracket_not_mem.2]
      simp only [Option.bind_eq_bind, Option.bind_some, scoped?_eq_some_iff.mpr h,
        number?_natDigits hport]

/-- A host without colons, with a port behind it. -/
theorem ofPlain?_eq_some_iff (hport : port ≤ 65535) (hcolon : ':' ∉ host) :
    ofPlain? (host ++ ':' :: Text.natDigits port) = some e ↔ Names port host e := by
  rw [ofPlain?, Text.splitFirst?_append _ hcolon]
  simp only [Option.bind_eq_bind, Option.bind_some, Option.bind_eq_some_iff,
    number?_natDigits hport, AddressV4.ofChars?_eq_some_iff, Option.some.injEq]
  constructor
  · rintro ⟨a, ha, rfl⟩
    exact .dotted ha
  · intro h
    rcases h.cases_colon with ⟨-, a, rfl, ha⟩ | ⟨hmem, -⟩
    · exact ⟨a, ha, rfl⟩
    · exact absurd hmem hcolon

/-- No address of version 4 begins with a bracket. -/
theorem ofPlain?_bracket (cs : List Char) : ofPlain? ('[' :: cs) = none := by
  rw [Option.eq_none_iff_forall_ne_some]
  intro e h
  simp only [ofPlain?, Option.bind_eq_bind, Option.bind_eq_some_iff,
    AddressV4.ofChars?_eq_some_iff] at h
  obtain ⟨⟨host, digits⟩, hsplit, a, ha, -⟩ := h
  have hbracket := ha.not_mem (c := '[') (by decide) (by decide)
  cases host with
  | nil => exact absurd (Text.splitFirst?_eq_some_iff.mp hsplit).1 (by simp)
  | cons c host =>
    obtain rfl := (List.cons.inj (Text.splitFirst?_eq_some_iff.mp hsplit).1).1
    exact hbracket List.mem_cons_self

theorem ofBracketed?_eq_none {cs : List Char} (h : cs.head? ≠ some '[') : ofBracketed? cs = none := by
  rw [ofBracketed?.eq_def]
  split
  · exact absurd rfl h
  · rfl

end Endpoint

end AccessBroker
