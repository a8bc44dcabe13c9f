/-
Written values read back.

The tokens of a value take any state in which a value may come to the one in
which it is settled (`run?_tokens`); inside an array or an object the same holds
of what is left of it. So the bytes of an exact value give its tree
(`Tree.ofBytes?_flatMap`), and the tree stands for the value (`value?_tree`): an
exact value that is not nested too deep is read back as it was, both as it is
written (`read?_write`) and with the characters in its quotes spelled in another
way (`read?_flatMap`).
-/
import AccessBroker.Json.Value
import AccessBroker.Proofs.Json.Token

namespace AccessBroker.Json

mutual

/-- The tree of a value without floating numbers. -/
def tree (g : Char → List Char) : Json → Tree
  | null => .null
  | bool b => .bool b
  | whole n => .number (spelled n)
  | float _ => .null
  | text s => .quoted (inside g s)
  | array elements => .array (trees g elements)
  | object members => .object (memberTrees g members)

/-- The trees of some values. -/
def trees (g : Char → List Char) : List Json → List Tree
  | [] => []
  | j :: rest => tree g j :: trees g rest

/-- The trees of some members. -/
def memberTrees (g : Char → List Char) : List (String × Json) → List (List UInt8 × Tree)
  | [] => []
  | (name, j) :: rest => (inside g name, tree g j) :: memberTrees g rest

end

namespace Tree

/-! ## Running over the tokens -/

variable {g : Char → List Char}

theorem run?_cons {s s' : State} {t : Token} (h : step? s t = some s') (rest : List Token) :
    run? s (t :: rest) = run? s' rest := by
  rw [run?, h]

/-- No value begins with the end of an array. -/
theorem exists_tokens_eq_cons : ∀ j : Json, j.IsExact →
    ∃ t ts, j.tokens g = t :: ts ∧ t ≠ .closeArray
  | .null, _ => ⟨.null, [], rfl, nofun⟩
  | .bool b, _ => ⟨.bool b, [], rfl, nofun⟩
  | .whole n, _ => ⟨.number (spelled n), [], rfl, nofun⟩
  | .float _, h => h.elim
  | .text s, _ => ⟨.quoted (inside g s), [], rfl, nofun⟩
  | .array elements, _ => ⟨.openArray, _, by rw [tokens], nofun⟩
  | .object members, _ => ⟨.openObject, _, by rw [tokens], nofun⟩

/-- The first element of an array is read as any other. -/
theorem run?_first {j : Json} (h : j.IsExact) (frames : List Frame) (rest : List Token) :
    run? (.first frames) (j.tokens g ++ rest) =
      run? (.value (.array [] :: frames)) (j.tokens g ++ rest) := by
  obtain ⟨t, ts, htokens, ht⟩ := exists_tokens_eq_cons j h
  have hstep : step? (.first frames) t = step? (.value (.array [] :: frames)) t := by
    cases t <;> first | rfl | exact absurd rfl ht
  rw [htokens, List.cons_append, run?, run?, hstep]

/-- The first name of an object is read as any other. -/
theorem run?_firstName (name : List UInt8) (frames : List Frame) (rest : List Token) :
    run? (.firstName frames) (.quoted name :: rest) =
      run? (.name [] frames) (.quoted name :: rest) := rfl

mutual

/-- The tokens of a value settle its tree. -/
theorem run?_tokens : ∀ (j : Json), j.IsExact → ∀ (frames : List Frame) (rest : List Token),
    run? (.value frames) (j.tokens g ++ rest) = run? (settle (j.tree g) frames) rest
  | .null, _, _, _ => rfl
  | .bool _, _, _, _ => rfl
  | .whole _, _, _, _ => rfl
  | .float _, h, _, _ => h.elim
  | .text _, _, _, _ => rfl
  | .array [], _, _, _ => rfl
  | .array (j :: js), h, frames, rest => by
    have hfirst : ∃ ts, elementTokens g (j :: js) = j.tokens g ++ ts := by
      cases js with
      | nil => exact ⟨[], by rw [elementTokens, List.append_nil]⟩
      | cons k js => exact ⟨_, by rw [elementTokens]; exact nofun⟩
    obtain ⟨ts, hts⟩ := hfirst
    -- The state behind the bracket also takes the closing one, which no value begins with.
    rw [tokens, List.cons_append, run?_cons rfl, List.append_assoc, hts, List.append_assoc,
      run?_first h.1, ← List.append_assoc, ← hts]
    exact run?_elementTokens (j :: js) (List.cons_ne_nil j js) h [] frames rest
  | .object [], _, _, _ => rfl
  | .object ((name, j) :: members), h, frames, rest => by
    have hfirst : ∃ ts, memberTokens g ((name, j) :: members) = .quoted (inside g name) :: ts := by
      cases members with
      | nil => exact ⟨_, by rw [memberTokens]⟩
      | cons m members => exact ⟨_, by rw [memberTokens]; exact nofun⟩
    obtain ⟨ts, hts⟩ := hfirst
    rw [tokens, List.cons_append, run?_cons rfl, List.append_assoc, hts, List.cons_append,
      run?_firstName, ← List.cons_append, ← hts]
    exact run?_memberTokens ((name, j) :: members) (List.cons_ne_nil _ members) h [] frames rest

/-- The tokens of the elements that are left, and the end, settle the array. -/
theorem run?_elementTokens : ∀ (js : List Json), js ≠ [] → AreExact js →
    ∀ (done : List Tree) (frames : List Frame) (rest : List Token),
    run? (.value (.array done :: frames)) (elementTokens g js ++ ([.closeArray] ++ rest)) =
      run? (settle (.array (done.reverse ++ trees g js)) frames) rest
  | [], hne, _, _, _, _ => absurd rfl hne
  | [j], _, h, done, frames, rest => by
    rw [elementTokens, run?_tokens j h.1]
    change run? (settle (.array (tree g j :: done).reverse) frames) rest = _
    rw [List.reverse_cons]
    rfl
  | j :: k :: js, _, h, done, frames, rest => by
    have hrest := run?_elementTokens (k :: js) (List.cons_ne_nil k js) h.2
    rw [elementTokens, List.append_assoc, run?_tokens j h.1, List.cons_append]
    · change run? (.value (.array (tree g j :: done) :: frames)) _ = _
      rw [hrest, List.reverse_cons, List.append_assoc]
      rfl
    · exact nofun

/-- The tokens of the members that are left, and the end, settle the object. -/
theorem run?_memberTokens : ∀ (members : List (String × Json)), members ≠ [] →
    MembersAreExact members →
    ∀ (done : List (List UInt8 × Tree)) (frames : List Frame) (rest : List Token),
    run? (.name done frames) (memberTokens g members ++ ([.closeObject] ++ rest)) =
      run? (settle (.object (done.reverse ++ memberTrees g members)) frames) rest
  | [], hne, _, _, _, _ => absurd rfl hne
  | [(name, j)], _, h, done, frames, rest => by
    rw [memberTokens]
    change run? (.value (.object done (inside g name) :: frames)) (j.tokens g ++ _) = _
    rw [run?_tokens j h.1]
    change run? (settle (.object ((inside g name, tree g j) :: done).reverse) frames) rest = _
    rw [List.reverse_cons]
    rfl
  | (name, j) :: m :: members, _, h, done, frames, rest => by
    have hrest := run?_memberTokens (m :: members) (List.cons_ne_nil m members) h.2
    rw [memberTokens]
    · change run? (.value (.object done (inside g name) :: frames))
        ((j.tokens g ++ .comma :: memberTokens g (m :: members)) ++ _) = _
      rw [List.append_assoc, run?_tokens j h.1]
      change run? (.name ((inside g name, tree g j) :: done) frames)
        (memberTokens g (m :: members) ++ _) = _
      rw [hrest, List.reverse_cons, List.append_assoc]
      rfl
    · exact nofun

end

/-- **The bytes of a written value give its tree,** however the characters in quotes are spelled. -/
theorem ofBytes?_flatMap {f : Char → List Char} (hf : Respells f g) {j : Json} (h : j.IsExact) :
    Tree.ofBytes? (Text.Utf8.encodeChars (j.chars.flatMap f)) = some (j.tree g) := by
  have hrun := run?_tokens (g := g) j h [] []
  rw [List.append_nil] at hrun
  rw [Tree.ofBytes?, (Token.cuts_tokens hf j h).ofBytes?, Option.bind_some, hrun]
  rfl

theorem ofBytes?_write {j : Json} (h : j.IsExact) :
    Tree.ofBytes? (Text.Utf8.encode j.write) = some (j.tree escapeChar) := by
  have hread := ofBytes?_flatMap respells_pure h
  rw [List.flatMap_singleton'] at hread
  rwa [Text.Utf8.encode, write, String.toList_ofList]

/-! ## The value of a tree -/

theorem gather_of_le : ∀ (ds : List Nat) (v : Nat),
    ds.foldl (fun v d => 10 * v + d) v ≤ Spelled.maxWord →
    Spelled.gather v ds = (ds.foldl (fun v d => 10 * v + d) v, [])
  | [], _, _ => rfl
  | d :: ds, v, h => by
    have hstep : 10 * v + d ≤ Spelled.maxWord :=
      Nat.le_trans (Text.le_foldl_digits 8 ds (10 * v + d)) h
    rw [Spelled.gather, if_pos hstep]
    exact gather_of_le ds (10 * v + d) h

theorem gather_digitsIn {n : Nat} (h : n ≤ Spelled.maxWord) :
    Spelled.gather 0 (Text.digitsIn 8 n) = (n, []) := by
  have hsum := Text.foldl_digitsIn 8 n
  rw [gather_of_le _ 0 (Nat.le_trans (Nat.le_of_eq hsum) h)]
  exact congrArg (·, []) hsum

theorem value?_spelled {n : Int} (h : (Json.whole n).IsExact) :
    (spelled n).value? = some (.whole n) := by
  obtain ⟨hlow, hhigh⟩ := h
  have hmax : Spelled.maxWord = 18446744073709551615 := rfl
  have hword : Nat.pow 2 63 = 9223372036854775808 := rfl
  cases n with
  | ofNat n =>
    rw [Int.ofNat_eq_natCast] at hhigh
    simp only [spelled_ofNat, Spelled.value?, gather_digitsIn (show n ≤ Spelled.maxWord by omega)]
    rfl
  | negSucc n =>
    simp only [spelled_negSucc, Spelled.value?,
      gather_digitsIn (show n + 1 ≤ Spelled.maxWord by omega)]
    rw [if_neg (by decide), if_pos ⟨by omega, by omega⟩]
    rfl

mutual

/-- The tree of a value stands for it. -/
theorem value?_tree (hg : ∀ c, Spells c (g c)) : ∀ j : Json, j.IsExact → (j.tree g).value? = some j
  | .null, _ => rfl
  | .bool _, _ => rfl
  | .whole _, h => value?_spelled h
  | .float _, h => h.elim
  | .text s, _ => by
    rw [tree, value?, unquote?_inside hg, Option.map_some]
  | .array js, h => by
    rw [tree, value?, valueList?_trees hg js h, Option.map_some]
  | .object members, h => by
    rw [tree, value?, valueMembers?_memberTrees hg members h, Option.map_some]

theorem valueList?_trees (hg : ∀ c, Spells c (g c)) : ∀ js : List Json, AreExact js →
    valueList? (trees g js) = some js
  | [], _ => rfl
  | j :: js, h => by
    rw [trees, valueList?, value?_tree hg j h.1, valueList?_trees hg js h.2]
    rfl

theorem valueMembers?_memberTrees (hg : ∀ c, Spells c (g c)) :
    ∀ members : List (String × Json), MembersAreExact members →
    valueMembers? (memberTrees g members) = some members
  | [], _ => rfl
  | (name, j) :: members, h => by
    rw [memberTrees, valueMembers?, unquote?_inside hg, value?_tree hg j h.1,
      valueMembers?_memberTrees hg members h.2]
    rfl

end

end Tree

/-! ## Nested values -/

section

variable {g : Char → List Char} {n : Nat}

theorem depthList_trees_le {js : List Json} (h : ∀ j ∈ js, (j.tree g).depth ≤ n) :
    Tree.depthList (trees g js) ≤ n := by
  induction js with
  | nil => exact Nat.zero_le n
  | cons j js ih =>
    obtain ⟨hj, hrest⟩ := List.forall_mem_cons.mp h
    exact Nat.max_le.mpr ⟨hj, ih hrest⟩

theorem depthMembers_memberTrees_le {members : List (String × Json)}
    (h : ∀ m ∈ members, (m.2.tree g).depth ≤ n) :
    Tree.depthMembers (memberTrees g members) ≤ n := by
  induction members with
  | nil => exact Nat.zero_le n
  | cons m members ih =>
    obtain ⟨hm, hrest⟩ := List.forall_mem_cons.mp h
    exact Nat.max_le.mpr ⟨hm, ih hrest⟩

end

/-- **A written value is read back,** however the characters in quotes are spelled. -/
theorem read?_flatMap {f g : Char → List Char} (hf : Respells f g) {j : Json} (h : j.IsExact)
    (hdepth : (j.tree g).depth ≤ maxDepth) :
    read? (String.ofList (j.chars.flatMap f)) = some j := by
  rw [read?, ofBytes?, Text.Utf8.encode, String.toList_ofList, Tree.ofBytes?_flatMap hf h]
  simp only [Option.bind_eq_bind, Option.bind_some, if_pos hdepth, Tree.value?_tree hf.spells j h]

theorem read?_write {j : Json} (h : j.IsExact) (hdepth : (j.tree escapeChar).depth ≤ maxDepth) :
    read? j.write = some j := by
  have hread := read?_flatMap respells_pure h hdepth
  rwa [List.flatMap_singleton'] at hread

end AccessBroker.Json
