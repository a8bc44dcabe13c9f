/-
A tree keeps all the tokens it was read from.

`State.tokens` gives the tokens that were read when a state was reached; each
step adds the token it takes (`tokens_of_step?`), so a run that finishes gives a
tree whose tokens are all those that were run over (`tokens_of_run?`). With that
the tree of a text stands in its bytes, token by token (`lie_of_ofBytes?`).
-/
import AccessBroker.Json.Tree
import AccessBroker.Proofs.Json.Layout

namespace AccessBroker.Json.Tree

mutual

/-- The tokens of a tree in a row. -/
def flat : Tree → List Token
  | null => [.null]
  | bool b => [.bool b]
  | number n => [.number n]
  | quoted s => [.quoted s]
  | array elements => .openArray :: (flatElements elements ++ [.closeArray])
  | object members => .openObject :: (flatMembers members ++ [.closeObject])

/-- The tokens of trees with commas between them. -/
def flatElements : List Tree → List Token
  | [] => []
  | [t] => flat t
  | t :: rest => flat t ++ .comma :: flatElements rest

/-- The tokens of members with commas between them. -/
def flatMembers : List (List UInt8 × Tree) → List Token
  | [] => []
  | [(name, t)] => .quoted name :: .colon :: flat t
  | (name, t) :: rest => .quoted name :: .colon :: (flat t ++ .comma :: flatMembers rest)

end

/-- The tokens of elements, each with a comma behind it. -/
def elementsBefore (ts : List Tree) : List Token := ts.flatMap fun t => t.flat ++ [.comma]

/-- The tokens of members, each with a comma behind it. -/
def membersBefore (ms : List (List UInt8 × Tree)) : List Token :=
  ms.flatMap fun m => .quoted m.1 :: .colon :: (m.2.flat ++ [.comma])

theorem flatElements_concat : ∀ (ts : List Tree) (t : Tree),
    flatElements (ts ++ [t]) = elementsBefore ts ++ t.flat
  | [], t => by rw [List.nil_append, flatElements]; rfl
  | t' :: ts, t => by
    rw [List.cons_append, flatElements, flatElements_concat ts t]
    · simp [elementsBefore]
    · simp

theorem flatMembers_concat : ∀ (ms : List (List UInt8 × Tree)) (name : List UInt8) (t : Tree),
    flatMembers (ms ++ [(name, t)]) = membersBefore ms ++ .quoted name :: .colon :: t.flat
  | [], name, t => by rw [List.nil_append, flatMembers]; rfl
  | (name', t') :: ms, name, t => by
    rw [List.cons_append, flatMembers, flatMembers_concat ms name t]
    · simp [membersBefore]
    · simp

/-- A member among others. -/
theorem exists_flatMembers_eq : ∀ {ms : List (List UInt8 × Tree)} {name : List UInt8} {t : Tree},
    (name, t) ∈ ms → ∃ before behind,
      flatMembers ms = before ++ .quoted name :: .colon :: (t.flat ++ behind)
  | [], _, _, h => absurd h List.not_mem_nil
  | [m], name, t, h => by
    obtain rfl := List.mem_singleton.mp h
    exact ⟨[], [], by rw [flatMembers, List.append_nil]; rfl⟩
  | (name', t') :: m :: ms, name, t, h => by
    rw [flatMembers]
    · rcases List.mem_cons.mp h with heq | h
      · cases heq
        exact ⟨[], _, rfl⟩
      · obtain ⟨before, behind, hrest⟩ := exists_flatMembers_eq h
        refine ⟨.quoted name' :: .colon :: (t'.flat ++ .comma :: before), behind, ?_⟩
        rw [hrest]
        simp
    · simp

/-! ## What was read so far -/

/-- The tokens of an open array or object that were read so far. -/
def Frame.tokens : Frame → List Token
  | .array done => .openArray :: elementsBefore done.reverse
  | .object done name => .openObject :: (membersBefore done.reverse ++ [.quoted name, .colon])

/-- The tokens of all that is open, the innermost last. -/
def framesTokens (frames : List Frame) : List Token := frames.reverse.flatMap Frame.tokens

theorem framesTokens_cons (f : Frame) (frames : List Frame) :
    framesTokens (f :: frames) = framesTokens frames ++ f.tokens := by
  simp [framesTokens]

/-- The tokens that were read when a state was reached. -/
def State.tokens : State → List Token
  | .value frames => framesTokens frames
  | .first frames => framesTokens frames ++ [.openArray]
  | .element done frames => framesTokens frames ++ .openArray :: flatElements done.reverse
  | .firstName frames => framesTokens frames ++ [.openObject]
  | .name done frames => framesTokens frames ++ .openObject :: membersBefore done.reverse
  | .colon done s frames =>
    framesTokens frames ++ .openObject :: (membersBefore done.reverse ++ [.quoted s])
  | .member done frames => framesTokens frames ++ .openObject :: flatMembers done.reverse
  | .finished t => t.flat

/-- Where a comma may come, something was read before. -/
def State.HasDone : State → Prop
  | .element done _ => done ≠ []
  | .member done _ => done ≠ []
  | _ => True

theorem hasDone_settle (t : Tree) (frames : List Frame) : (settle t frames).HasDone := by
  cases frames with
  | nil => trivial
  | cons f frames => cases f <;> exact List.cons_ne_nil _ _

theorem tokens_settle (t : Tree) (frames : List Frame) :
    (settle t frames).tokens = framesTokens frames ++ t.flat := by
  cases frames with
  | nil => rfl
  | cons f frames =>
    rw [framesTokens_cons]
    cases f with
    | array done =>
      simp [settle, State.tokens, Frame.tokens, flatElements_concat]
    | object done name =>
      simp [settle, State.tokens, Frame.tokens, flatMembers_concat]

theorem elementsBefore_eq {ts : List Tree} (h : ts ≠ []) :
    elementsBefore ts = flatElements ts ++ [.comma] := by
  rw [← List.dropLast_concat_getLast h, flatElements_concat]
  simp [elementsBefore]

theorem membersBefore_eq {ms : List (List UInt8 × Tree)} (h : ms ≠ []) :
    membersBefore ms = flatMembers ms ++ [.comma] := by
  rw [← List.dropLast_concat_getLast h, flatMembers_concat]
  simp [membersBefore]

theorem tokens_of_begin? {frames : List Frame} {tok : Token} {s : State}
    (h : begin? frames tok = some s) : s.tokens = framesTokens frames ++ [tok] ∧ s.HasDone := by
  cases tok with
  | closeArray | closeObject | comma | colon => cases h
  | openArray | openObject =>
    cases h
    exact ⟨rfl, trivial⟩
  | null | bool | number | quoted =>
    cases h
    exact ⟨tokens_settle _ _, hasDone_settle _ _⟩

/-- **One step** adds the token that it takes. -/
theorem tokens_of_step? {s s' : State} {tok : Token} (hs : s.HasDone) (h : step? s tok = some s') :
    s'.tokens = s.tokens ++ [tok] ∧ s'.HasDone := by
  unfold step? at h
  split at h
  case h_1 => exact tokens_of_begin? h
  case h_3 frames _ _ =>
    obtain ⟨htokens, hdone⟩ := tokens_of_begin? h
    refine ⟨?_, hdone⟩
    rw [htokens, framesTokens_cons]
    simp [State.tokens, Frame.tokens, elementsBefore]
  case h_4 done frames =>
    cases h
    have hdone : done.reverse ≠ [] := fun h => hs (List.reverse_eq_nil_iff.mp h)
    refine ⟨?_, trivial⟩
    rw [State.tokens, framesTokens_cons, Frame.tokens, elementsBefore_eq hdone]
    simp [State.tokens]
  case h_10 done frames =>
    cases h
    have hdone : done.reverse ≠ [] := fun h => hs (List.reverse_eq_nil_iff.mp h)
    refine ⟨?_, trivial⟩
    rw [State.tokens, membersBefore_eq hdone]
    simp [State.tokens]
  case h_2 | h_5 | h_6 | h_11 =>
    cases h
    refine ⟨?_, hasDone_settle _ _⟩
    rw [tokens_settle]
    simp [State.tokens, Tree.flat, flatElements, flatMembers]
  case h_7 | h_8 | h_9 =>
    cases h
    refine ⟨?_, trivial⟩
    simp [State.tokens, framesTokens_cons, Frame.tokens, membersBefore]
  case h_12 => cases h

/-- **A run** that finishes gives a tree with all its tokens. -/
theorem tokens_of_run? {s : State} {toks : List Token} {t : Tree} (hs : s.HasDone)
    (h : run? s toks = some t) : t.flat = s.tokens ++ toks := by
  induction toks generalizing s with
  | nil =>
    cases s with
    | finished t' =>
      cases h
      exact (List.append_nil _).symm
    | _ => cases h
  | cons tok toks ih =>
    rw [run?] at h
    split at h
    · next s' hstep =>
      obtain ⟨htokens, hs'⟩ := tokens_of_step? hs hstep
      rw [ih hs' h, htokens, List.append_assoc]
      rfl
    · cases h

/-- **The tokens of the tree of a text stand in its bytes.** -/
theorem lie_of_ofBytes? {bytes : List UInt8} {t : Tree} (h : ofBytes? bytes = some t) :
    Token.Lie t.flat bytes := by
  obtain ⟨toks, htoks, hrun⟩ := Option.bind_eq_some_iff.mp h
  rw [show t.flat = toks from tokens_of_run? (s := .value []) trivial hrun]
  exact Token.lie_of_ofBytes? htoks

end AccessBroker.Json.Tree
