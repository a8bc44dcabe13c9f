/-
Stores made from a seed, in whatever order its entries are visited.

The entries of a seed are written one by one, each under the key of the origin
or the item that it names. Two texts may have one key; then their entries meet,
and the one that is visited last is told. `seeds_alike_iff` says that, and what it
leaves to the order: how much a store holds never hangs on it, and what it answers
just where entries with different values meet. Two spellings of one origin are
enough for that (`exists_seeds_ne`).
-/
import AccessBroker.DegradedAccess
import AccessBroker.Item
import AccessBroker.Proofs.Store.Table

namespace AccessBroker

open Store (Table)

theorem DegradedAccess.table_ofList (seed : List (String × Bool)) :
    (DegradedAccess.ofList seed).table = .ofPairs Origin.key seed :=
  (List.foldl_hom DegradedAccess.table fun _ _ => rfl).symm

theorem ItemModes.table_ofList (seed : List (String × AccessMode)) :
    (ItemModes.ofList seed).table = .ofPairs ItemModes.key seed :=
  (List.foldl_hom ItemModes.table fun _ _ => rfl).symm

namespace Store

variable {α β σ : Type}

/-- What the order of a seed decides of the stores made from it. Told of a text is the value of the
entry with its key that is visited last, as `read` reads it, or the lack of one. So the order decides
nothing of the size, and nothing of the answer to a text just where the entries with its key have one
value, as they have if no two entries have one key. -/
structure OrderDecides (keyOf : String → String) (ofList : List (String × α) → σ) (size : σ → Nat)
    (answer : σ → String → β) (read : Option α → β) (seed : List (String × α)) : Prop where
  answer_eq : ∀ l, l.Perm seed → ∀ asked,
    answer (ofList l) asked = read (found? keyOf (keyOf asked) l.reverse)
  size_eq : ∀ l l', l.Perm seed → l'.Perm seed → size (ofList l) = size (ofList l')
  alike_iff : ∀ asked,
    (∀ l l', l.Perm seed → l'.Perm seed → answer (ofList l) asked = answer (ofList l') asked) ↔
      Table.AgreeOn keyOf (keyOf asked) seed
  alike_of_nodup : (seed.map fun p => keyOf p.1).Nodup → ∀ asked l l', l.Perm seed →
    l'.Perm seed → answer (ofList l) asked = answer (ofList l') asked

/-- A store that is a table with look-ups by key. -/
theorem orderDecides_of_table {keyOf : String → String} {ofList : List (String × α) → σ}
    {size : σ → Nat} {answer : σ → String → β} (read : Option α → β)
    (hread : ∀ a a', read (some a) = read (some a') → a = a')
    (hsize : ∀ l, size (ofList l) = (Table.ofPairs keyOf l).size)
    (hanswer : ∀ l asked, answer (ofList l) asked =
      read ((Table.ofPairs keyOf l).get? (keyOf asked)))
    (seed : List (String × α)) : OrderDecides keyOf ofList size answer read seed := by
  have hiff : ∀ asked, (∀ l l', l.Perm seed → l'.Perm seed →
      answer (ofList l) asked = answer (ofList l') asked) ↔
        Table.AgreeOn keyOf (keyOf asked) seed := by
    intro asked
    simp only [hanswer]
    exact Table.forall_perm_iff hread
  refine ⟨?_, ?_, hiff, fun hnodup asked => (hiff asked).mpr (Table.agreeOn_of_nodup hnodup _)⟩
  · intro l _ asked
    rw [hanswer, Table.get?_ofPairs]
  · intro l l' hl hl'
    rw [hsize, hsize, Table.size_ofPairs_perm hl, Table.size_ofPairs_perm hl']

/-- **What the order of a seed decides.** A store made from a seed tells the value of the entry that
is visited last among those with the key of a text. Two stores made from one seed in different orders
hold equally much; and they give one answer to a text, in all orders, just where the entries with its
key all have one value. So it is for the flags of origins, where a text without an entry is not
allowed a lower quality, and for the modes of items. -/
theorem seeds_alike_iff (origins : List (String × Bool)) (modes : List (String × AccessMode)) :
    OrderDecides Origin.key DegradedAccess.ofList DegradedAccess.size DegradedAccess.allowed
        (·.getD false) origins ∧
      OrderDecides ItemModes.key ItemModes.ofList ItemModes.size ItemModes.get? id modes := by
  constructor
  · refine orderDecides_of_table (·.getD false) (fun _ _ h => h) ?_ ?_ _
    · intro l
      rw [DegradedAccess.size, DegradedAccess.table_ofList]
    · intro l asked
      rw [DegradedAccess.allowed, DegradedAccess.table_ofList]
  · refine orderDecides_of_table id (fun _ _ h => Option.some.inj h) ?_ ?_ _
    · intro l
      rw [ItemModes.size, ItemModes.table_ofList]
    · intro l asked
      rw [ItemModes.get?, ItemModes.table_ofList]
      rfl

/-- Two spellings of an origin with different flags, and two of an item with different modes: the
answer is that of the entry that is visited last. -/
theorem exists_seeds_ne :
    (∃ l l' : List (String × Bool), l =
        [("https://viewer.example.org", true), ("https://viewer.example.org/", false)] ∧
      (l.map Prod.fst).Nodup ∧ l'.Perm l ∧
      (DegradedAccess.ofList l).allowed "https://viewer.example.org" = false ∧
      (DegradedAccess.ofList l').allowed "https://viewer.example.org" = true) ∧
    ∃ l l' : List (String × AccessMode), l =
        [("ark:/21198/z1", .tiered), (" ark:/21198/z1", .open)] ∧
      (l.map Prod.fst).Nodup ∧ l'.Perm l ∧
      (ItemModes.ofList l).get? "ark:/21198/z1" = some .open ∧
      (ItemModes.ofList l').get? "ark:/21198/z1" = some .tiered := by
  refine ⟨⟨_, [("https://viewer.example.org/", false), ("https://viewer.example.org", true)], rfl,
    by decide, List.Perm.swap _ _ _, by decide +kernel, by decide +kernel⟩, ?_⟩
  exact ⟨_, [(" ark:/21198/z1", .open), ("ark:/21198/z1", .tiered)], rfl, by decide,
    List.Perm.swap _ _ _, by decide +kernel, by decide +kernel⟩

end Store

end AccessBroker
