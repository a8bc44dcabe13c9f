/-
Where the tokens of a text stand in its bytes.

A text is its tokens one after another, as each is spelled, with nothing but
space between them (`Lie`, `lie_of_ofBytes?`). So tokens that are known tell
something of the bytes: how many there are at least (`Lie.length_le`), what
stands in quotes somewhere (`Lie.exists_quoted`), what the first and the last
byte may be. Only the spelling of a number is left open, apart from the bytes it
may be made of.
-/
import AccessBroker.Json.Token

namespace AccessBroker.Json.Token

/-- The bytes that spell a token; none for a number, which may be spelled in more ways than one. -/
def bytes : Token → List UInt8
  | openArray => [0x5B]
  | closeArray => [0x5D]
  | openObject => [0x7B]
  | closeObject => [0x7D]
  | comma => [0x2C]
  | colon => [0x3A]
  | null => [0x6E, 0x75, 0x6C, 0x6C]
  | bool true => [0x74, 0x72, 0x75, 0x65]
  | bool false => [0x66, 0x61, 0x6C, 0x73, 0x65]
  | number _ => []
  | quoted inside => 0x22 :: (inside ++ [0x22])

/-- Whether some bytes spell a token. -/
def IsSpelled (front : List UInt8) : Token → Prop
  | number _ => front ≠ []
  | t => front = t.bytes

/-- The tokens stand in the bytes one after another, with nothing but space between them. -/
inductive Lie : List Token → List UInt8 → Prop where
  | nil : Lie [] []
  | space {b : UInt8} {ts : List Token} {bytes : List UInt8} (hb : isSpace b = true)
      (h : Lie ts bytes) : Lie ts (b :: bytes)
  | token {t : Token} {front bytes : List UInt8} {ts : List Token} (hfront : IsSpelled front t)
      (h : Lie ts bytes) : Lie (t :: ts) (front ++ bytes)

/-! ## One token -/

theorem IsSpelled.ne_nil {front : List UInt8} {t : Token} (h : IsSpelled front t) : front ≠ [] := by
  cases t with
  | number n => exact h
  | bool b =>
    rw [show front = _ from h]
    cases b <;> exact List.cons_ne_nil _ _
  | _ =>
    rw [show front = _ from h]
    exact List.cons_ne_nil _ _

theorem IsSpelled.length_le {front : List UInt8} {t : Token} (h : IsSpelled front t) :
    t.bytes.length ≤ front.length ∧ (front.length ≤ t.bytes.length → front = t.bytes) := by
  cases t with
  | number n =>
    refine ⟨Nat.zero_le _, fun hle => absurd ?_ h⟩
    exact List.length_eq_zero_iff.mp (Nat.le_zero.mp hle)
  | _ =>
    rw [show front = _ from h]
    exact ⟨Nat.le_refl _, fun _ => rfl⟩

theorem exists_digits_eq : ∀ bytes : List UInt8,
    ∃ front, bytes = front ++ (digits bytes).2 ∧ ((digits bytes).1 ≠ [] → front ≠ [])
  | [] => ⟨[], rfl, fun h => absurd rfl h⟩
  | b :: rest => by
    obtain ⟨front, hrest, -⟩ := exists_digits_eq rest
    rw [digits]
    split
    · exact ⟨b :: front, by rw [List.cons_append, ← hrest], fun _ => List.cons_ne_nil b front⟩
    · exact ⟨[], rfl, fun h => absurd rfl h⟩

theorem exists_whole?_eq {bytes after : List UInt8} {ds : List Nat}
    (h : whole? bytes = some (ds, after)) : ∃ front, bytes = front ++ after ∧ front ≠ [] := by
  obtain ⟨front, hbytes, hfront⟩ := exists_digits_eq bytes
  rw [whole?] at h
  split at h
  · cases h
  · cases h
  · next hnil _ hdigits =>
    cases h
    rw [hdigits] at hbytes hfront
    exact ⟨front, hbytes, hfront hnil⟩

theorem exists_fraction?_eq {bytes after : List UInt8} {ds : Option (List Nat)}
    (h : fraction? bytes = some (ds, after)) : ∃ front, bytes = front ++ after := by
  rw [fraction?.eq_def] at h
  split at h
  · next rest =>
    obtain ⟨front, hrest, -⟩ := exists_digits_eq rest
    split at h
    · cases h
    · next hdigits =>
      cases h
      rw [hdigits] at hrest
      exact ⟨0x2E :: front, by rw [List.cons_append, ← hrest]⟩
  · cases h
    exact ⟨[], rfl⟩

theorem exists_exponentSign_eq (bytes : List UInt8) :
    ∃ front, bytes = front ++ (exponentSign bytes).2 := by
  rw [exponentSign.eq_def]
  split
  · exact ⟨[0x2B], rfl⟩
  · exact ⟨[0x2D], rfl⟩
  · exact ⟨[], rfl⟩

theorem exists_exponent?_eq {bytes after : List UInt8} {e : Option (Bool × List Nat)}
    (h : exponent? bytes = some (e, after)) : ∃ front, bytes = front ++ after := by
  cases bytes with
  | nil =>
    cases h
    exact ⟨[], rfl⟩
  | cons b rest =>
    rw [exponent?] at h
    split at h
    · obtain ⟨sign, hsign⟩ := exists_exponentSign_eq rest
      obtain ⟨front, hfront, -⟩ := exists_digits_eq (exponentSign rest).2
      dsimp only at h
      split at h
      · cases h
      · next hdigits =>
        cases h
        rw [hdigits] at hfront
        refine ⟨b :: (sign ++ front), ?_⟩
        rw [List.cons_append, List.append_assoc, ← hfront, ← hsign]
    · cases h
      exact ⟨[], rfl⟩

theorem exists_number?_eq {negative : Bool} {bytes after : List UInt8} {t : Token}
    (h : number? negative bytes = some (t, after)) :
    ∃ n front, t = number n ∧ bytes = front ++ after ∧ front ≠ [] := by
  simp only [number?, Option.bind_eq_bind, Option.bind_eq_some_iff] at h
  obtain ⟨⟨whole, rest⟩, hwhole, ⟨fraction, rest'⟩, hfraction, ⟨exponent, rest''⟩, hexponent, h⟩ := h
  cases h
  obtain ⟨front, rfl, hne⟩ := exists_whole?_eq hwhole
  obtain ⟨front', rfl⟩ := exists_fraction?_eq hfraction
  obtain ⟨front'', rfl⟩ := exists_exponent?_eq hexponent
  refine ⟨_, front ++ (front' ++ front''), rfl, by simp only [List.append_assoc], ?_⟩
  exact List.append_ne_nil_of_left_ne_nil hne _

theorem exists_inside?_eq {bytes xs after : List UInt8} (h : inside? bytes = some (xs, after)) :
    bytes = xs ++ 0x22 :: after := by
  fun_induction inside? bytes generalizing xs with
  | case1 => cases h
  | case2 rest =>
    cases h
    rfl
  | case3 a b c d rest hhex ih =>
    obtain ⟨⟨ys, after'⟩, hrest, heq⟩ := Option.map_eq_some_iff.mp h
    cases heq
    rw [ih hrest]
    rfl
  | case4 => cases h
  | case5 b rest hfour hshort ih =>
    obtain ⟨⟨ys, after'⟩, hrest, heq⟩ := Option.map_eq_some_iff.mp h
    cases heq
    rw [ih hrest]
    rfl
  | case6 => cases h
  | case7 => cases h
  | case8 b rest _ _ _ _ ih =>
    obtain ⟨⟨ys, after'⟩, hrest, heq⟩ := Option.map_eq_some_iff.mp h
    cases heq
    rw [ih hrest]
    rfl

/-- A token is cut where its spelling ends. -/
theorem exists_next?_eq {b : UInt8} {rest after : List UInt8} {t : Token}
    (h : next? b rest = some (t, after)) : ∃ front, b :: rest = front ++ after ∧ IsSpelled front t := by
  rw [next?.eq_def] at h
  split at h
  case h_10 rest =>
    obtain ⟨⟨xs, after'⟩, hinside, heq⟩ := Option.map_eq_some_iff.mp h
    cases heq
    refine ⟨0x22 :: (xs ++ [0x22]), ?_, rfl⟩
    rw [exists_inside?_eq hinside, List.cons_append, List.append_assoc]
    rfl
  case h_11 rest =>
    obtain ⟨n, front, rfl, rfl, -⟩ := exists_number?_eq h
    exact ⟨0x2D :: front, rfl, List.cons_ne_nil _ _⟩
  case h_12 b rest _ _ _ _ _ _ _ _ _ _ _ =>
    obtain ⟨n, front, rfl, hrest, hne⟩ := exists_number?_eq h
    exact ⟨front, hrest, hne⟩
  all_goals
    cases h
    exact ⟨_, rfl, rfl⟩

/-! ## All tokens -/

theorem lie_of_cut? {steps : Nat} {bytes : List UInt8} {ts : List Token}
    (h : cut? steps bytes = some ts) : Lie ts bytes := by
  induction steps generalizing bytes ts with
  | zero =>
    cases bytes with
    | nil =>
      cases h
      exact .nil
    | cons b rest => cases h
  | succ steps ih =>
    cases bytes with
    | nil =>
      cases h
      exact .nil
    | cons b rest =>
      rw [cut?] at h
      split at h
      · next hspace => exact .space hspace (ih h)
      · split at h
        · next t after hnext =>
          obtain ⟨ts', hafter, rfl⟩ := Option.map_eq_some_iff.mp h
          obtain ⟨front, hfront, hspelled⟩ := exists_next?_eq hnext
          rw [hfront]
          exact .token hspelled (ih hafter)
        · cases h

/-- **The tokens that bytes are cut into stand in them.** -/
theorem lie_of_ofBytes? {bytes : List UInt8} {ts : List Token} (h : ofBytes? bytes = some ts) :
    Lie ts bytes := lie_of_cut? h

namespace Lie

theorem append {ts us : List Token} {front back : List UInt8} (hfront : Lie ts front)
    (hback : Lie us back) : Lie (ts ++ us) (front ++ back) := by
  induction hfront with
  | nil => exact hback
  | space hb h ih => exact .space hb ih
  | token hspelled h ih =>
    rw [List.append_assoc]
    exact .token hspelled ih

/-- Where some of the tokens end the bytes can be parted. -/
theorem split {ts us : List Token} {bytes : List UInt8} (h : Lie (ts ++ us) bytes) :
    ∃ front back, bytes = front ++ back ∧ Lie ts front ∧ Lie us back := by
  generalize hvs : ts ++ us = vs at h
  induction h generalizing ts with
  | nil =>
    obtain ⟨rfl, rfl⟩ := List.append_eq_nil_iff.mp hvs
    exact ⟨[], [], rfl, .nil, .nil⟩
  | @space b vs bytes hb h ih =>
    obtain ⟨front, back, rfl, hfront, hback⟩ := ih hvs
    exact ⟨b :: front, back, rfl, .space hb hfront, hback⟩
  | @token t front bytes vs hspelled h ih =>
    cases ts with
    | nil =>
      rw [List.nil_append] at hvs
      exact ⟨[], front ++ bytes, rfl, .nil, hvs ▸ .token hspelled h⟩
    | cons t' ts =>
      rw [List.cons_append, List.cons.injEq] at hvs
      obtain ⟨rfl, hvs⟩ := hvs
      obtain ⟨front', back, rfl, hfront, hback⟩ := ih hvs
      exact ⟨front ++ front', back, (List.append_assoc ..).symm, .token hspelled hfront, hback⟩

/-- Bytes without tokens are space. -/
theorem isSpace_of_mem {bytes : List UInt8} (h : Lie [] bytes) {b : UInt8} (hb : b ∈ bytes) :
    isSpace b = true := by
  generalize hts : [] = ts at h
  induction h with
  | nil => cases hb
  | space hspace h ih =>
    rcases List.mem_cons.mp hb with rfl | hb
    · exact hspace
    · exact ih hb hts
  | token => cases hts

/-- A single token has nothing but space around it. -/
theorem single {t : Token} {bytes : List UInt8} (h : Lie [t] bytes) :
    ∃ left front right, bytes = left ++ (front ++ right) ∧ Lie [] left ∧ IsSpelled front t ∧
      Lie [] right := by
  generalize hts : [t] = ts at h
  induction h with
  | nil => cases hts
  | @space b ts bytes hb h ih =>
    obtain ⟨left, front, right, rfl, hleft, hrest⟩ := ih hts
    exact ⟨b :: left, front, right, rfl, .space hb hleft, hrest⟩
  | @token t' front bytes ts hspelled h _ =>
    obtain ⟨rfl, rfl⟩ := List.cons.inj hts
    exact ⟨[], front, bytes, rfl, .nil, hspelled, h⟩

/-- What is quoted stands between quotes in the bytes, behind the tokens in front of it. -/
theorem exists_quoted {ts us : List Token} {xs bytes : List UInt8}
    (h : Lie (ts ++ quoted xs :: us) bytes) :
    ∃ front rest, bytes = front ++ 0x22 :: (xs ++ 0x22 :: rest) ∧ Lie ts front := by
  obtain ⟨before, behind, rfl, hbefore, hbehind⟩ := h.split
  have hbehind : Lie ([quoted xs] ++ us) behind := hbehind
  obtain ⟨one, rest, rfl, hone, -⟩ := hbehind.split
  obtain ⟨left, front, right, rfl, hleft, rfl, -⟩ := hone.single
  refine ⟨before ++ left, right ++ rest, ?_, ?_⟩
  · simp [Token.bytes]
  · have happend := hbefore.append hleft
    rwa [List.append_nil] at happend

/-- The last byte is space or the last one of the last token. -/
theorem getLast_of_concat {ts : List Token} {t : Token} {bytes : List UInt8}
    (h : Lie (ts ++ [t]) bytes) {b : UInt8} (hb : bytes.getLast? = some b) :
    isSpace b = true ∨ ∃ front, IsSpelled front t ∧ front.getLast? = some b := by
  obtain ⟨before, behind, rfl, -, hbehind⟩ := h.split
  obtain ⟨left, front, right, rfl, -, hspelled, hright⟩ := hbehind.single
  rw [List.getLast?_append, List.getLast?_append, List.getLast?_append] at hb
  cases hlast : right.getLast? with
  | some c =>
    rw [hlast] at hb
    cases hb
    exact .inl (hright.isSpace_of_mem (List.mem_of_getLast? hlast))
  | none =>
    have hc := List.getLast?_eq_some_getLast hspelled.ne_nil
    rw [hlast, hc] at hb
    cases hb
    exact .inr ⟨front, hspelled, hc⟩

theorem length_le {ts : List Token} {bytes : List UInt8} (h : Lie ts bytes) :
    (ts.flatMap Token.bytes).length ≤ bytes.length := by
  induction h with
  | nil => exact Nat.le_refl _
  | space hb h ih => exact Nat.le_succ_of_le ih
  | token hspelled h ih =>
    rw [List.flatMap_cons, List.length_append, List.length_append]
    exact Nat.add_le_add hspelled.length_le.1 ih

/-- Bytes that are no more than the tokens need hold nothing else. -/
theorem eq_of_length_le {ts : List Token} {bytes : List UInt8} (h : Lie ts bytes)
    (hle : bytes.length ≤ (ts.flatMap Token.bytes).length) : bytes = ts.flatMap Token.bytes := by
  induction h with
  | nil => rfl
  | space hb h ih =>
    have hrest := h.length_le
    rw [List.length_cons] at hle
    omega
  | token hspelled h ih =>
    have hrest := h.length_le
    have hfront := hspelled.length_le
    rw [List.flatMap_cons, List.length_append, List.length_append] at hle
    rw [List.flatMap_cons, ← ih (by omega), hfront.2 (by omega)]

end Lie

end AccessBroker.Json.Token
