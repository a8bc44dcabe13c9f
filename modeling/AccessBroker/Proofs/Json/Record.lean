/-
Records read off trees.

The names in the tree of a written object are its names again
(`ofTree?_tree_object`), so reading known fields off the tree is looking them up
among the members that were written. The other way round, what is read for the
first name stands first in an array, or as a member whose name is a spelling of
it (`cases_of_ofTree?`).
-/
import AccessBroker.Json.Record
import AccessBroker.Proofs.Json.Tree

namespace AccessBroker.Json

namespace Record

/-- The names of the members and the trees of their values. -/
def named (members : List (String × Json)) : List (String × Tree) :=
  members.map fun m => (m.1, m.2.tree escapeChar)

theorem mapM_memberTrees (members : List (String × Json)) :
    (memberTrees escapeChar members).mapM (fun (name, t) => (unquote? name).map fun name => (name, t)) =
      some (named members) := by
  induction members with
  | nil => rfl
  | cons m members ih =>
    obtain ⟨name, j⟩ := m
    simp only [memberTrees, List.mapM_cons, ih, unquote?_inside spells_escapeChar]
    rfl

/-- The tree of a written object gives each known name what was written for it. -/
theorem ofTree?_tree_object (names : List String) (members : List (String × Json)) :
    ofTree? names ((Json.object members).tree escapeChar) = fields? names (named members) := by
  rw [tree, ofTree?, mapM_memberTrees]
  rfl

/-! ## What was read stands in the tree -/

theorem mem_of_once? {α : Type} {name : String} {members : List (String × α)} {a : α}
    (h : once? name members = some (some a)) : (name, a) ∈ members := by
  rw [once?] at h
  split at h
  · cases h
  · next m hfilter =>
    cases h
    have hm : m ∈ members.filter fun m => m.1 = name := hfilter ▸ List.mem_singleton_self m
    rw [List.mem_filter, decide_eq_true_eq] at hm
    obtain ⟨hmem, rfl⟩ := hm
    exact hmem
  · cases h

theorem mem_of_inOrder? {α : Type} {names : List String} {elements : List α}
    {given : List (Option α)} (h : inOrder? names elements = some given) :
    given = elements.map some ++ List.replicate (names.length - elements.length) none := by
  rw [inOrder?] at h
  split at h
  · exact (Option.some.inj h).symm
  · cases h

/-- A name that was read is quoted in the tree. -/
theorem exists_mem_of_mapM {members : List (List UInt8 × Tree)} {named : List (String × Tree)}
    (h : members.mapM (fun (name, t) => (unquote? name).map fun name => (name, t)) = some named)
    {name : String} {t : Tree} (hmem : (name, t) ∈ named) :
    ∃ inside, unquote? inside = some name ∧ (inside, t) ∈ members := by
  induction members generalizing named with
  | nil =>
    cases h
    cases hmem
  | cons m members ih =>
    simp only [List.mapM_cons, Option.bind_eq_bind, Option.bind_eq_some_iff, Option.pure_def,
      Option.map_eq_some_iff, Option.some.injEq] at h
    obtain ⟨_, ⟨name', hname', rfl⟩, named', hnamed', rfl⟩ := h
    rcases List.mem_cons.mp hmem with heq | hmem
    · cases heq
      exact ⟨m.1, hname', List.mem_cons_self⟩
    · obtain ⟨inside, hinside, hmem⟩ := ih hnamed' hmem
      exact ⟨inside, hinside, List.mem_cons_of_mem m hmem⟩

/-- What is given to the first name is the first element of an array, or a member with that name. -/
theorem cases_of_ofTree? {name : String} {names : List String} {t u : Tree}
    {more : List (Option Tree)} (h : ofTree? (name :: names) t = some (some u :: more)) :
    (∃ elements, t = .array (u :: elements) ∧
        more = elements.map some ++ List.replicate (names.length - elements.length) none) ∨
      ∃ members inside, t = .object members ∧ unquote? inside = some name ∧
        (inside, u) ∈ members := by
  cases t with
  | array elements =>
    have hgiven := mem_of_inOrder? h
    cases elements with
    | nil => simp [List.replicate_succ] at hgiven
    | cons e elements =>
      simp only [List.map_cons, List.cons_append, List.cons.injEq, Option.some.injEq,
        List.length_cons, Nat.add_sub_add_right] at hgiven
      obtain ⟨rfl, hmore⟩ := hgiven
      exact .inl ⟨elements, rfl, hmore⟩
  | object members =>
    obtain ⟨named, hnamed, h⟩ := Option.bind_eq_some_iff.mp h
    simp only [fields?, List.mapM_cons, Option.bind_eq_bind, Option.bind_eq_some_iff,
      Option.pure_def, Option.some.injEq] at h
    obtain ⟨_, honce, _, -, heq⟩ := h
    cases heq
    obtain ⟨inside, hinside, hmem⟩ := exists_mem_of_mapM hnamed (mem_of_once? honce)
    exact .inr ⟨members, inside, rfl, hinside, hmem⟩
  | _ => cases h

end Record

theorem Tree.exists_of_text? {t : Tree} {s : String} (h : t.text? = some s) :
    ∃ inside, t = .quoted inside ∧ unquote? inside = some s := by
  cases t with
  | quoted inside => exact ⟨inside, rfl, h⟩
  | _ => cases h

theorem Tree.eq_of_bool? {t : Tree} {b : Bool} (h : t.bool? = some b) : t = .bool b := by
  cases t with
  | bool b' =>
    cases h
    rfl
  | _ => cases h

end AccessBroker.Json
