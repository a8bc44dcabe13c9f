/-
Stores in use.

A store is made from a seed, and then set and asked in any order (`Use`). It keeps one table all
along, to which each set is one more write and to which a question changes nothing (`table_after`).
So the answer to a text is the value that was set last under its key, or else the one of the seed,
whatever the texts were by which the key was named (`last_set_wins`).
-/
import AccessBroker.Proofs.Store.Seeding

namespace AccessBroker

namespace Store

variable {α β σ : Type}

/-- What is done with a store: a value is set for a text, or the one for a text is asked for. -/
inductive Use (α : Type) where
  | set (text : String) (v : α)
  | ask (text : String)
  deriving DecidableEq

/-- What was set, the first one first. -/
def Use.written : List (Use α) → List (String × α)
  | [] => []
  | .set text v :: uses => (text, v) :: written uses
  | .ask _ :: uses => written uses

theorem Use.written_append : ∀ uses uses' : List (Use α),
    written (uses ++ uses') = written uses ++ written uses'
  | [], _ => rfl
  | .set text v :: uses, uses' => congrArg ((text, v) :: ·) (written_append uses uses')
  | .ask _ :: uses, uses' => written_append uses uses'

theorem found?_append (keyOf : String → String) (k : String) (front back : List (String × α)) :
    found? keyOf k (front ++ back) = (found? keyOf k front).or (found? keyOf k back) := by
  rw [found?, List.find?_append, Option.map_or, ← found?, ← found?]

/-- Where no two entries have one key, the order of them does not matter. -/
theorem found?_reverse {keyOf : String → String} {entries : List (String × α)}
    (h : (entries.map fun e => keyOf e.1).Nodup) (k : String) :
    found? keyOf k entries.reverse = found? keyOf k entries := by
  have hperm := Table.get?_ofPairs_perm (List.reverse_perm entries) (Table.agreeOn_of_nodup h k)
  rw [Table.get?_ofPairs, Table.get?_ofPairs, List.reverse_reverse] at hperm
  exact hperm.symm

/-- What can be done with a store that is made from a seed. -/
structure Operations (α β σ : Type) where
  ofList : List (String × α) → σ
  set : σ → String → α → σ
  answer : σ → String → β
  size : σ → Nat
  isEmpty : σ → Bool

namespace Operations

variable (o : Operations α β σ)

/-- The store after one use. -/
def step (s : σ) : Use α → σ
  | .set text v => o.set s text v
  | .ask _ => s

/-- The store that was made from a seed, after uses of it. -/
def after (seed : List (String × α)) (uses : List (Use α)) : σ := uses.foldl o.step (o.ofList seed)

/-- The value that was set last under a key is told, or else the one in the seed. Questions change
nothing, and each key counts once, however often it was set. -/
structure LastWins (keyOf : String → String) (read : Option α → β) (seed : List (String × α)) :
    Prop where
  answer_eq : ∀ uses text, o.answer (o.after seed uses) text =
    read ((found? keyOf (keyOf text) (Use.written uses).reverse).or (found? keyOf (keyOf text) seed))
  after_ask : ∀ uses text rest, o.after seed (uses ++ .ask text :: rest) = o.after seed (uses ++ rest)
  size_eq : ∀ uses, o.size (o.after seed uses) =
    ((seed ++ Use.written uses).map fun e => keyOf e.1).dedup.length
  isEmpty_iff : ∀ uses, o.isEmpty (o.after seed uses) = true ↔ o.size (o.after seed uses) = 0

/-- Operations that keep a table, in which each text stands under its key. -/
structure KeepsTable (keyOf : String → String) (read : Option α → β) (table : σ → Table α) :
    Prop where
  ofList : ∀ seed, table (o.ofList seed) = .ofPairs keyOf seed
  set : ∀ s text v, table (o.set s text v) = (table s).insert (keyOf text) v
  answer : ∀ s text, o.answer s text = read ((table s).get? (keyOf text))
  size : ∀ s, o.size s = (table s).size
  isEmpty : ∀ s, o.isEmpty s = (table s).isEmpty

variable {o} {keyOf : String → String} {read : Option α → β} {table : σ → Table α}

theorem KeepsTable.step (h : o.KeepsTable keyOf read table) {s : σ} {done : List (String × α)}
    (hs : table s = .ofPairs keyOf done) (use : Use α) :
    table (o.step s use) = .ofPairs keyOf (done ++ Use.written [use]) := by
  cases use with
  | set text v =>
    rw [Operations.step, h.set, hs, Use.written, Use.written, Table.ofPairs_concat]
  | ask text => rwa [Use.written, Use.written, List.append_nil]

/-- The table holds what the seed gave and what was set since. -/
theorem KeepsTable.table_after (h : o.KeepsTable keyOf read table) (seed : List (String × α))
    (uses : List (Use α)) :
    table (o.after seed uses) = .ofPairs keyOf (seed ++ Use.written uses) := by
  induction uses using List.reverseRecOn with
  | nil => rw [Use.written, List.append_nil, after, List.foldl_nil, h.ofList]
  | append_singleton uses use ih =>
    rw [after, List.foldl_append, Use.written_append, ← List.append_assoc]
    exact h.step ih use

theorem KeepsTable.lastWins (h : o.KeepsTable keyOf read table) {seed : List (String × α)}
    (hseed : (seed.map fun e => keyOf e.1).Nodup) : o.LastWins keyOf read seed where
  answer_eq uses text := by
    rw [h.answer, h.table_after, Table.get?_ofPairs, List.reverse_append, found?_append,
      found?_reverse hseed]
  after_ask uses text rest := by
    rw [after, after, List.foldl_append, List.foldl_append]
    rfl
  size_eq uses := by rw [h.size, h.table_after, Table.size_ofPairs]
  isEmpty_iff uses := by
    rw [h.isEmpty, h.size, Table.isEmpty, Table.size, List.isEmpty_iff, List.length_eq_zero_iff]

end Operations

end Store

/-! ## The two stores -/

/-- What can be done with the flags of origins. -/
def DegradedAccess.operations : Store.Operations Bool Bool DegradedAccess where
  ofList := ofList
  set := set
  answer := allowed
  size := size
  isEmpty := isEmpty

theorem DegradedAccess.keepsTable : operations.KeepsTable Origin.key (·.getD false) table where
  ofList := table_ofList
  set _ _ _ := rfl
  answer _ _ := rfl
  size _ := rfl
  isEmpty _ := rfl

/-- What can be done with the modes of items. -/
def ItemModes.operations : Store.Operations AccessMode (Option AccessMode) ItemModes where
  ofList := ofList
  set := set
  answer := get?
  size := size
  isEmpty := isEmpty

theorem ItemModes.keepsTable : operations.KeepsTable ItemModes.key id table where
  ofList := table_ofList
  set _ _ _ := rfl
  answer _ _ := rfl
  size _ := rfl
  isEmpty _ := rfl

/-- **The last set wins.** Seeded with entries of different keys and then used in any way, a store
tells the value that was set last under the key of a text, or else the one of the seed; an origin
under neither is not allowed a lower quality, and an item under neither has no mode. -/
theorem Store.last_set_wins (origins : List (String × Bool)) (modes : List (String × AccessMode))
    (horigins : (origins.map fun e => Origin.key e.1).Nodup)
    (hmodes : (modes.map fun e => Text.trim e.1).Nodup) :
    DegradedAccess.operations.LastWins Origin.key (·.getD false) origins ∧
      ItemModes.operations.LastWins Text.trim id modes :=
  ⟨DegradedAccess.keepsTable.lastWins horigins, ItemModes.keepsTable.lastWins hmodes⟩

/-- One origin and one item, each set by a spelling other than that of the seed and asked for by yet
another: told is what was set. -/
theorem Store.last_set_wins_spellings :
    ([("https://viewer.example.org", true), ("app://reader/", true)].map
        fun e : String × Bool => Origin.key e.1).Nodup ∧
      ([("ark:/21198/z1", .tiered)].map fun e : String × AccessMode => Text.trim e.1).Nodup ∧
      DegradedAccess.operations.LastWins Origin.key (·.getD false)
        [("https://viewer.example.org", true), ("app://reader/", true)] ∧
      ItemModes.operations.LastWins Text.trim id [("ark:/21198/z1", .tiered)] ∧
      ((DegradedAccess.ofList [("https://viewer.example.org", true), ("app://reader/", true)]).set
        "HTTPS://Viewer.Example.org:443/" false).allowed "https://viewer.example.org/page?q" = false ∧
      ((ItemModes.ofList [("ark:/21198/z1", .tiered)]).set " ark:/21198/z1" .open).get?
        "ark:/21198/z1\t" = some .open := by
  have horigins : ([("https://viewer.example.org", true), ("app://reader/", true)].map
      fun e : String × Bool => Origin.key e.1).Nodup := by decide +kernel
  have hmodes : ([("ark:/21198/z1", AccessMode.tiered)].map
      fun e : String × AccessMode => Text.trim e.1).Nodup := List.nodup_singleton _
  obtain ⟨hflag, hmode⟩ := Store.last_set_wins _ _ horigins hmodes
  have horigin := hflag.answer_eq [.set "HTTPS://Viewer.Example.org:443/" false]
    "https://viewer.example.org/page?q"
  have hitem := hmode.answer_eq [.set " ark:/21198/z1" .open] "ark:/21198/z1\t"
  exact ⟨horigins, hmodes, hflag, hmode, horigin.trans (by decide +kernel),
    hitem.trans (by decide +kernel)⟩

end AccessBroker
