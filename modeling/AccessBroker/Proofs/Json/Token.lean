/-
Written values cut into their tokens again.

`Cuts front ts`: some bytes give some tokens, whatever comes after them that
does not go on with a number. Marks, words, numbers and quoted texts are cut one
by one, and `cuts_tokens` puts a value together from them. How many steps are
left for the bytes after is left open; there are always enough.
-/
import AccessBroker.Json.Basic
import AccessBroker.Proofs.Json.Quoted
import AccessBroker.Proofs.Text.Number
import Mathlib.Tactic.IntervalCases

namespace AccessBroker.Json

open Text.Utf8 (encodeChars)

mutual

/-- A value without floating numbers whose whole numbers have 64 bits. -/
def IsExact : Json → Prop
  | whole n => -9223372036854775808 ≤ n ∧ n ≤ 18446744073709551615
  | float _ => False
  | array elements => AreExact elements
  | object members => MembersAreExact members
  | _ => True

/-- Values of which each is exact. -/
def AreExact : List Json → Prop
  | [] => True
  | j :: rest => IsExact j ∧ AreExact rest

/-- Members of which each value is exact. -/
def MembersAreExact : List (String × Json) → Prop
  | [] => True
  | (_, j) :: rest => IsExact j ∧ MembersAreExact rest

end

theorem areExact_iff {js : List Json} : AreExact js ↔ ∀ j ∈ js, j.IsExact := by
  induction js with
  | nil => exact iff_of_true trivial (List.forall_mem_nil _)
  | cons j js ih => rw [AreExact, ih, List.forall_mem_cons]

theorem membersAreExact_iff {members : List (String × Json)} :
    MembersAreExact members ↔ ∀ m ∈ members, m.2.IsExact := by
  induction members with
  | nil => exact iff_of_true trivial (List.forall_mem_nil _)
  | cons m members ih =>
    obtain ⟨name, j⟩ := m
    rw [MembersAreExact, ih, List.forall_mem_cons]

theorem isExact_ofWord (n : UInt64) : (ofWord n).IsExact := by
  have hn := n.toNat_lt
  simp only [ofWord, ofNat, IsExact]
  omega

/-- How a whole number is spelled. -/
def spelled (n : Int) : Spelled := ⟨decide (n < 0), Text.digitsIn 8 n.natAbs, none, none⟩

theorem spelled_ofNat (n : Nat) :
    spelled (Int.ofNat n) = ⟨false, Text.digitsIn 8 n, none, none⟩ := by
  simp [spelled]

theorem spelled_negSucc (n : Nat) :
    spelled (Int.negSucc n) = ⟨true, Text.digitsIn 8 (n + 1), none, none⟩ := by
  simp [spelled]

/-- The characters that stand outside quotes. -/
def outer : List Char := "\x7b\x7d[]:,\"-0123456789aeflnrstu".toList

/-- A way to write the characters of a value once more, which leaves those outside quotes as they
are, and makes each that stands in quotes stand there in some way. -/
structure Respells (f g : Char → List Char) : Prop where
  outer : ∀ c ∈ outer, f c = [c]
  inner : ∀ c, (escapeChar c).flatMap f = g c
  spells : ∀ c, Spells c (g c)

theorem respells_pure : Respells (fun c => [c]) escapeChar where
  outer _ _ := rfl
  inner c := List.flatMap_singleton' (escapeChar c)
  spells := spells_escapeChar

mutual

/-- The tokens of a value without floating numbers. -/
def tokens (g : Char → List Char) : Json → List Token
  | null => [.null]
  | bool b => [.bool b]
  | whole n => [.number (spelled n)]
  | float _ => []
  | text s => [.quoted (inside g s)]
  | array elements => .openArray :: (elementTokens g elements ++ [.closeArray])
  | object members => .openObject :: (memberTokens g members ++ [.closeObject])

/-- The tokens of values with commas between them. -/
def elementTokens (g : Char → List Char) : List Json → List Token
  | [] => []
  | [j] => tokens g j
  | j :: rest => tokens g j ++ .comma :: elementTokens g rest

/-- The tokens of members with commas between them. -/
def memberTokens (g : Char → List Char) : List (String × Json) → List Token
  | [] => []
  | [(name, j)] => .quoted (inside g name) :: .colon :: tokens g j
  | (name, j) :: rest =>
    .quoted (inside g name) :: .colon :: (tokens g j ++ .comma :: memberTokens g rest)

end

namespace Token

/-- A byte that does not go on with a number. -/
structure EndsNumber (b : UInt8) : Prop where
  digit : digit? b = none
  point : b ≠ 0x2E
  exponent : ¬(b = 0x65 ∨ b = 0x45)

/-- Some bytes give some tokens, in front of any bytes that do not go on with a number. -/
def Cuts (front : List UInt8) (ts : List Token) : Prop :=
  ∀ (steps : Nat) (rest : List UInt8), (∀ b ∈ rest.head?, EndsNumber b) →
    (front ++ rest).length ≤ steps →
    ∃ left, rest.length ≤ left ∧ cut? steps (front ++ rest) = (cut? left rest).map (ts ++ ·)

theorem Cuts.nil : Cuts [] [] := by
  intro steps rest _ hsteps
  exact ⟨steps, hsteps, by simp⟩

/-- A token by itself. -/
theorem Cuts.single {b : UInt8} {front : List UInt8} {t : Token} (hspace : isSpace b = false)
    (hnext : ∀ rest : List UInt8, (∀ b ∈ rest.head?, EndsNumber b) →
      next? b (front ++ rest) = some (t, rest)) : Cuts (b :: front) [t] := by
  intro steps rest hrest hsteps
  cases steps with
  | zero => simp at hsteps
  | succ steps =>
    refine ⟨steps, ?_, ?_⟩
    · simp only [List.cons_append, List.length_cons, List.length_append] at hsteps
      omega
    · rw [List.cons_append, cut?, hspace, hnext rest hrest]
      rfl

/-- A byte that is a token by itself and ends a number. -/
structure IsMark (b : UInt8) (t : Token) : Prop where
  space : isSpace b = false
  next : ∀ rest, next? b rest = some (t, rest)
  ends : EndsNumber b

/-- A mark in front. -/
theorem Cuts.cons {b : UInt8} {t : Token} (hb : IsMark b t) {front : List UInt8}
    {ts : List Token} (h : Cuts front ts) : Cuts (b :: front) (t :: ts) := by
  intro steps rest hrest hsteps
  cases steps with
  | zero => simp at hsteps
  | succ steps =>
    obtain ⟨left, hleft, hcut⟩ := h steps rest hrest (by
      simp only [List.cons_append, List.length_cons, List.length_append] at hsteps ⊢
      omega)
    refine ⟨left, hleft, ?_⟩
    rw [List.cons_append, cut?, hb.space, hb.next]
    simp only [Bool.false_eq_true, if_false, hcut, Option.map_map]
    rfl

/-- Two stretches, if the second begins with a mark. -/
theorem Cuts.append {front : List UInt8} {ts : List Token} (h : Cuts front ts) {b : UInt8}
    {t : Token} (hb : IsMark b t) {back : List UInt8} {us : List Token}
    (hback : Cuts (b :: back) us) : Cuts (front ++ b :: back) (ts ++ us) := by
  intro steps rest hrest hsteps
  rw [List.append_assoc] at hsteps ⊢
  obtain ⟨middle, hmiddle, hfront⟩ := h steps (b :: back ++ rest) (by
    intro c hc
    cases hc
    exact hb.ends) hsteps
  obtain ⟨left, hleft, hcut⟩ := hback middle rest hrest hmiddle
  refine ⟨left, hleft, ?_⟩
  rw [hfront, hcut, Option.map_map]
  simp [Function.comp_def]

/-- The tokens of all the bytes. -/
theorem Cuts.ofBytes? {bytes : List UInt8} {ts : List Token} (h : Cuts bytes ts) :
    ofBytes? bytes = some ts := by
  obtain ⟨left, -, hcut⟩ := h bytes.length [] nofun (by simp)
  rw [List.append_nil] at hcut
  rw [Token.ofBytes?, hcut]
  cases left <;> simp [cut?]

/-! ## Marks and words -/

theorem isMark_openArray : IsMark 0x5B openArray :=
  ⟨rfl, fun _ => rfl, ⟨rfl, by decide, by decide⟩⟩

theorem isMark_closeArray : IsMark 0x5D closeArray :=
  ⟨rfl, fun _ => rfl, ⟨rfl, by decide, by decide⟩⟩

theorem isMark_openObject : IsMark 0x7B openObject :=
  ⟨rfl, fun _ => rfl, ⟨rfl, by decide, by decide⟩⟩

theorem isMark_closeObject : IsMark 0x7D closeObject :=
  ⟨rfl, fun _ => rfl, ⟨rfl, by decide, by decide⟩⟩

theorem isMark_comma : IsMark 0x2C comma :=
  ⟨rfl, fun _ => rfl, ⟨rfl, by decide, by decide⟩⟩

theorem isMark_colon : IsMark 0x3A colon :=
  ⟨rfl, fun _ => rfl, ⟨rfl, by decide, by decide⟩⟩

theorem cuts_null : Cuts (encodeChars "null".toList) [null] :=
  Cuts.single rfl fun _ _ => rfl

theorem cuts_true : Cuts (encodeChars "true".toList) [bool true] :=
  Cuts.single rfl fun _ _ => rfl

theorem cuts_false : Cuts (encodeChars "false".toList) [bool false] :=
  Cuts.single rfl fun _ _ => rfl

/-! ## Quoted texts -/

theorem cuts_quoted {g : Char → List Char} (hg : ∀ c, Spells c (g c)) (s : String) :
    Cuts (0x22 :: (inside g s ++ [0x22])) [quoted (inside g s)] := by
  refine Cuts.single rfl fun rest _ => ?_
  rw [List.append_assoc]
  change (inside? (inside g s ++ 0x22 :: rest)).map _ = _
  rw [inside?_quote hg, Option.map_some]

/-! ## Numbers -/

/-- The byte of a decimal digit. -/
def digitByte (d : Nat) : UInt8 := UInt8.ofNat (0x30 + d)

theorem encodeChar_digitChar : ∀ d < 10, Text.Utf8.encodeChar (Nat.digitChar d) = [digitByte d] := by
  decide

theorem digit?_digitByte : ∀ d < 10, digit? (digitByte d) = some d := by decide

theorem isSpace_digitByte : ∀ d < 10, isSpace (digitByte d) = false := by decide

theorem next?_digitByte {d : Nat} (hd : d < 10) (rest : List UInt8) :
    next? (digitByte d) rest = number? false (digitByte d :: rest) := by
  interval_cases d <;> rfl

theorem encodeChars_digits : ∀ {ds : List Nat}, (∀ d ∈ ds, d < 10) →
    encodeChars (ds.map Nat.digitChar) = ds.map digitByte
  | [], _ => rfl
  | d :: ds, h => by
    rw [List.map_cons, Text.Utf8.encodeChars_cons, encodeChar_digitChar d (h d List.mem_cons_self),
      encodeChars_digits fun e he => h e (List.mem_cons_of_mem d he)]
    rfl

theorem digits_append : ∀ {ds : List Nat} {rest : List UInt8}, (∀ d ∈ ds, d < 10) →
    (∀ b ∈ rest.head?, EndsNumber b) → digits (ds.map digitByte ++ rest) = (ds, rest)
  | [], [], _, _ => rfl
  | [], b :: rest, _, h => by
    rw [List.map_nil, List.nil_append, digits, (h b rfl).digit]
  | d :: ds, rest, hds, h => by
    rw [List.map_cons, List.cons_append, digits, digit?_digitByte d (hds d List.mem_cons_self),
      digits_append (fun e he => hds e (List.mem_cons_of_mem d he)) h]

theorem fraction?_of_ends {rest : List UInt8} (h : ∀ b ∈ rest.head?, EndsNumber b) :
    fraction? rest = some (none, rest) := by
  cases rest with
  | nil => rfl
  | cons b rest => simp [fraction?, (h b rfl).point]

theorem exponent?_of_ends {rest : List UInt8} (h : ∀ b ∈ rest.head?, EndsNumber b) :
    exponent? rest = some (none, rest) := by
  cases rest with
  | nil => rfl
  | cons b rest => rw [exponent?, if_neg (h b rfl).exponent]

theorem whole?_digitsIn (n : Nat) {rest : List UInt8} (h : ∀ b ∈ rest.head?, EndsNumber b) :
    whole? ((Text.digitsIn 8 n).map digitByte ++ rest) = some (Text.digitsIn 8 n, rest) := by
  rw [whole?, digits_append (fun d hd => Text.lt_of_mem_digitsIn hd) h]
  split
  · next hnil => exact absurd (congrArg Prod.fst hnil) (Text.digitsIn_ne_nil 8 n)
  · next d ds _ hzero =>
    have hds := (Text.eq_zero_of_digitsIn (congrArg Prod.fst hzero)).2
    cases hds
  · next hds =>
    cases hds
    rfl

/-- A number in digits is cut where its digits end. -/
theorem number?_digitsIn (negative : Bool) (n : Nat) {rest : List UInt8}
    (h : ∀ b ∈ rest.head?, EndsNumber b) :
    number? negative ((Text.digitsIn 8 n).map digitByte ++ rest) =
      some (.number ⟨negative, Text.digitsIn 8 n, none, none⟩, rest) := by
  simp only [number?, whole?_digitsIn n h, fraction?_of_ends h, exponent?_of_ends h,
    Option.bind_eq_bind, Option.bind_some]

theorem encodeChars_natDigits (n : Nat) :
    encodeChars (Text.natDigits n) = (Text.digitsIn 8 n).map digitByte := by
  rw [Text.natDigits_eq_map, encodeChars_digits fun d hd => Text.lt_of_mem_digitsIn hd]

theorem cuts_intText (n : Int) :
    Cuts (encodeChars (Text.intText n).toList) [number (spelled n)] := by
  cases n with
  | ofNat n =>
    rw [Text.intText, Text.natText, String.toList_ofList, encodeChars_natDigits, spelled_ofNat]
    cases hds : Text.digitsIn 8 n with
    | nil => exact absurd hds (Text.digitsIn_ne_nil 8 n)
    | cons d ds =>
      have hd : d < 10 := Text.lt_of_mem_digitsIn (hds ▸ List.mem_cons_self)
      refine Cuts.single (isSpace_digitByte d hd) fun rest hrest => ?_
      rw [next?_digitByte hd, ← List.cons_append, ← List.map_cons, ← hds,
        number?_digitsIn false n hrest]
  | negSucc n =>
    have hchars : (Text.intText (Int.negSucc n)).toList = '-' :: Text.natDigits (n + 1) := by
      simp [Text.intText, Text.natText]
    rw [hchars, Text.Utf8.encodeChars_cons, encodeChars_natDigits, spelled_negSucc]
    exact Cuts.single rfl fun rest hrest => number?_digitsIn true (n + 1) hrest

/-! ## Values -/

theorem natDigits_subset_outer (n : Nat) : Text.natDigits n ⊆ outer := by
  have hdigit : ∀ d < 10, Nat.digitChar d ∈ outer := by decide
  intro c hc
  obtain ⟨d, hd, rfl⟩ := Text.exists_digitChar_of_mem_toDigits (b := 8) hc
  exact hdigit d hd

theorem intText_subset_outer (n : Int) : (Text.intText n).toList ⊆ outer := by
  cases n with
  | ofNat n =>
    rw [Text.intText, Text.natText, String.toList_ofList]
    exact natDigits_subset_outer n
  | negSucc n =>
    have hminus : '-' ∈ outer := by decide
    simp [Text.intText, Text.natText, hminus, natDigits_subset_outer]

section

variable {f g : Char → List Char} (h : Respells f g)
include h

theorem flatMap_of_subset : ∀ {cs : List Char}, cs ⊆ outer → cs.flatMap f = cs
  | [], _ => rfl
  | c :: cs, hcs => by
    rw [List.cons_subset] at hcs
    rw [List.flatMap_cons, h.outer c hcs.1, flatMap_of_subset hcs.2]
    rfl

theorem encodeChars_flatMap_cons {c : Char} (hc : c ∈ outer) (cs : List Char) :
    encodeChars ((c :: cs).flatMap f) = Text.Utf8.encodeChar c ++ encodeChars (cs.flatMap f) := by
  rw [List.flatMap_cons, h.outer c hc, List.cons_append, List.nil_append,
    Text.Utf8.encodeChars_cons]

theorem flatMap_escape : ∀ cs : List Char, (escape cs).flatMap f = cs.flatMap g
  | [] => rfl
  | c :: cs => by
    have ih := flatMap_escape cs
    rw [escape] at ih
    rw [escape, List.flatMap_cons, List.flatMap_append, h.inner, ih, List.flatMap_cons]

theorem encodeChars_flatMap_quoteChars (s : String) :
    encodeChars ((quoteChars s).flatMap f) = 0x22 :: (inside g s ++ [0x22]) := by
  have hquote : f '"' = ['"'] := h.outer '"' (by decide)
  rw [quoteChars, List.flatMap_append, List.flatMap_cons, hquote, flatMap_escape h,
    Text.Utf8.encodeChars_append, inside]
  simp only [List.flatMap_cons, List.flatMap_nil, hquote]
  rfl

mutual

/-- The bytes of a value give its tokens. -/
theorem cuts_tokens : ∀ j : Json, j.IsExact → Cuts (encodeChars (j.chars.flatMap f)) (j.tokens g)
  | .null, _ => by
    rw [chars, flatMap_of_subset h (by decide)]
    exact cuts_null
  | .bool true, _ => by
    rw [chars, flatMap_of_subset h (by decide)]
    exact cuts_true
  | .bool false, _ => by
    rw [chars, flatMap_of_subset h (by decide)]
    exact cuts_false
  | .whole n, _ => by
    rw [chars, flatMap_of_subset h (intText_subset_outer n)]
    exact cuts_intText n
  | .float _, hj => hj.elim
  | .text s, _ => by
    rw [chars, encodeChars_flatMap_quoteChars h]
    exact cuts_quoted h.spells s
  | .array elements, hj => by
    have hbytes : encodeChars ((Json.array elements).chars.flatMap f) =
        0x5B :: (encodeChars ((elementChars elements).flatMap f) ++ [0x5D]) := by
      rw [chars, List.flatMap_append, Text.Utf8.encodeChars_append,
        encodeChars_flatMap_cons h (by decide), encodeChars_flatMap_cons h (by decide)]
      rfl
    rw [hbytes, tokens]
    exact (((cuts_elementTokens elements hj).append isMark_closeArray
      (Cuts.nil.cons isMark_closeArray)).cons isMark_openArray)
  | .object members, hj => by
    have hbytes : encodeChars ((Json.object members).chars.flatMap f) =
        0x7B :: (encodeChars ((memberChars members).flatMap f) ++ [0x7D]) := by
      rw [chars, List.flatMap_append, Text.Utf8.encodeChars_append,
        encodeChars_flatMap_cons h (by decide), encodeChars_flatMap_cons h (by decide)]
      rfl
    rw [hbytes, tokens]
    exact (((cuts_memberTokens members hj).append isMark_closeObject
      (Cuts.nil.cons isMark_closeObject)).cons isMark_openObject)

/-- The bytes of values with commas between them give their tokens. -/
theorem cuts_elementTokens : ∀ js : List Json, AreExact js →
    Cuts (encodeChars ((elementChars js).flatMap f)) (elementTokens g js)
  | [], _ => Cuts.nil
  | [j], hj => cuts_tokens j hj.1
  | j :: k :: rest, hj => by
    rw [elementChars, elementTokens, List.flatMap_append, Text.Utf8.encodeChars_append,
      encodeChars_flatMap_cons h (by decide)]
    · exact (cuts_tokens j hj.1).append isMark_comma
        ((cuts_elementTokens (k :: rest) hj.2).cons isMark_comma)
    all_goals nofun

/-- The bytes of members with commas between them give their tokens. -/
theorem cuts_memberTokens : ∀ members : List (String × Json), MembersAreExact members →
    Cuts (encodeChars ((memberChars members).flatMap f)) (memberTokens g members)
  | [], _ => Cuts.nil
  | [(name, j)], hj => by
    rw [memberChars, memberTokens, List.flatMap_append, Text.Utf8.encodeChars_append,
      encodeChars_flatMap_cons h (by decide), encodeChars_flatMap_quoteChars h]
    exact (cuts_quoted h.spells name).append isMark_colon ((cuts_tokens j hj.1).cons isMark_colon)
  | (name, j) :: m :: rest, hj => by
    have hrest := (cuts_memberTokens (m :: rest) hj.2).cons isMark_comma
    have hvalue := (cuts_tokens j hj.1).append isMark_comma hrest
    have hmember := (cuts_quoted h.spells name).append isMark_colon (hvalue.cons isMark_colon)
    rw [memberChars, memberTokens, List.flatMap_append, List.flatMap_append,
      Text.Utf8.encodeChars_append, Text.Utf8.encodeChars_append,
      encodeChars_flatMap_cons h (by decide), encodeChars_flatMap_cons h (by decide),
      encodeChars_flatMap_quoteChars h, List.append_assoc]
    · exact hmember
    all_goals nofun

end

end

end Token

end AccessBroker.Json
