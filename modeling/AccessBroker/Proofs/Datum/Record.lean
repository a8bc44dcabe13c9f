/-
What a record that was read holds, and where a reading fails.

The entries of a table leave alone the fields that they do not name (`get_of_fillFrom`), and what
they name is read (`exists_of_fillFrom`). A fault below the key of a field is a fault of that
field (`exists_of_readRecord_error`). What a path of keys leads to (`Supplies`) is seen over anything
below it, and below data that give nothing there.
-/
import AccessBroker.Proofs.Datum.Keyed
import AccessBroker.Proofs.Datum.Parallel
import AccessBroker.Proofs.Text.Number

namespace AccessBroker.Datum

variable {a d e x : Datum} {path : List String}

/-! ## Paths that lead to given data -/

/-- A path of keys leads to data that stand for those given. -/
def Supplies (a : Datum) : List String → Datum → Prop
  | [], d => Kin a d
  | key :: path, d => ∃ es x, d = table es ∧ es.lookup key = some x ∧ Supplies a path x

theorem supplies_nested (a : Datum) : ∀ path : List String, Supplies a path (nested a path)
  | [] => .inl rfl
  | _ :: path => ⟨_, _, rfl, List.lookup_cons_self, supplies_nested a path⟩

theorem Supplies.isSome_at? : ∀ {path : List String} {d : Datum}, Supplies a path d →
    (at? path d).isSome = true
  | [], _, _ => by
    rw [at?]
    rfl
  | _ :: _, _, ⟨es, x, rfl, hlookup, hx⟩ => by
    rw [at?, hlookup, Option.bind_some]
    exact hx.isSome_at?

/-- What is supplied is seen over anything below. -/
theorem Supplies.overlay : ∀ {path : List String} {d : Datum}, Supplies a path d → IsKeyed d →
    ∀ x, Supplies a path (overlay d x)
  | [], _, h, _, x => Kin.overlay h x
  | key :: path, _, ⟨es, y, rfl, hlookup, hy⟩, hkeyed, x => by
    cases x with
    | table xs =>
      have hseen := lookup_overlayEntries hkeyed.nodup xs key
      rw [hlookup] at hseen
      cases hbelow : xs.lookup key with
      | none =>
        rw [hbelow] at hseen
        exact ⟨_, y, rfl, hseen, hy⟩
      | some z =>
        rw [hbelow] at hseen
        exact ⟨_, _, rfl, hseen, hy.overlay (hkeyed.of_lookup hlookup) z⟩
    | _ => exact ⟨es, y, rfl, hlookup, hy⟩

/-- Data give something at the end of a path of keys, or hide what is below them there. -/
def Gives : List String → Datum → Prop
  | [], _ => True
  | key :: path, table es => ∃ x, es.lookup key = some x ∧ Gives path x
  | _ :: _, _ => True

/-- What is supplied is seen below data that give nothing there. -/
theorem Supplies.beneath : ∀ {path : List String} {d x : Datum}, Supplies a path d → IsKeyed x →
    ¬Gives path x → Supplies a path (Datum.overlay x d)
  | [], _, _, _, _, hgives => absurd trivial hgives
  | key :: path, _, x, ⟨es, y, rfl, hlookup, hy⟩, hkeyed, hgives => by
    cases x with
    | table xs =>
      have hseen := lookup_overlayEntries hkeyed.nodup es key
      rw [hlookup] at hseen
      cases habove : xs.lookup key with
      | none =>
        rw [habove] at hseen
        exact ⟨_, y, rfl, hseen, hy⟩
      | some z =>
        rw [habove] at hseen
        have hz : ¬Gives path z := fun h => hgives ⟨z, habove, h⟩
        exact ⟨_, _, rfl, hseen, hy.beneath (hkeyed.of_lookup habove) hz⟩
    | _ => exact absurd trivial hgives

/-! ## Steps below a key -/

section

variable {α β : Type} {key : String} {x : Read α} {next : α → Read β}

theorem under_bind_eq_ok_iff {b : β} :
    under key x >>= next = .ok b ↔ ∃ a, x = .ok a ∧ next a = .ok b := by
  cases x with
  | error g => simp [under, bind, Except.bind]
  | ok a => simp [under, bind, Except.bind]

theorem under_bind_eq_error_iff {f : Fault} :
    under key x >>= next = .error f ↔
      (∃ g, x = .error g ∧ f = { g with path := key :: g.path }) ∨
        ∃ a, x = .ok a ∧ next a = .error f := by
  cases x with
  | error g => simp [under, bind, Except.bind, eq_comm]
  | ok a => simp [under, bind, Except.bind]

end

/-! ## Fields that are kept -/

variable {σ τ : Type} {set : σ → τ → σ} {get : σ → τ} {fields front back : List (Field σ)}
  {hole : Field σ} {entries : List (String × Datum)} {s s' : σ}

/-- A part of a record: what is put there is got from there, and nothing else is in it. -/
structure IsPart (get : σ → τ) (set : σ → τ → σ) : Prop where
  get_set : ∀ r t, get (set r t) = t
  set_get : ∀ r, set r (get r) = r
  set_set : ∀ r t u, set (set r t) u = set r u

theorem Field.exists_of_read {α : Type} {key : String} {read : Datum → Read α} {put : σ → α → σ}
    (h : (Field.of key read put).read d s = .ok s') : ∃ v, read d = .ok v ∧ s' = put s v := by
  change (read d).map (put s) = .ok s' at h
  cases hread : read d with
  | error f =>
    rw [hread] at h
    cases h
  | ok v =>
    rw [hread] at h
    exact ⟨v, rfl, (Except.ok.inj h).symm⟩

theorem Field.exists_of_read_error {α : Type} {key : String} {read : Datum → Read α}
    {put : σ → α → σ} {f : Fault} (h : (Field.of key read put).read d s = .error f) :
    read d = .error f := by
  change (read d).map (put s) = .error f at h
  cases hread : read d with
  | error g =>
    rw [hread] at h
    exact congrArg _ (Except.error.inj h)
  | ok v =>
    rw [hread] at h
    cases h

theorem Field.Keeps.get_eq {f : Field σ} (hf : f.Keeps set) (hpart : IsPart get set)
    (h : f.read d s = .ok s') : get s' = get s := by
  have hread := hf d s (get s)
  rw [hpart.set_get, h] at hread
  rw [Except.ok.inj hread, hpart.get_set]

/-- Entries without the key of the part leave it alone. -/
theorem get_of_fillFrom (hkeeps : ∀ f ∈ front ++ back, f.key ≠ hole.key ∧ f.Keeps set)
    (hpart : IsPart get set) (hnone : hole.key ∉ entries.map Prod.fst)
    (h : fillFrom (front ++ hole :: back) entries s = .ok s') : get s' = get s := by
  induction entries generalizing s with
  | nil => rw [Except.ok.inj h]
  | cons e rest ih =>
    obtain ⟨key, d⟩ := e
    rw [List.map_cons, List.mem_cons, not_or] at hnone
    rw [fillFrom] at h
    split at h
    · exact ih hnone.2 h
    · next f hfind =>
      have hmem := (mem_of_find? hfind (Ne.symm hnone.1)).2
      obtain ⟨r, hread, h⟩ := under_bind_eq_ok_iff.mp h
      rw [ih hnone.2 h, (hkeeps f hmem).2.get_eq hpart hread]

/-- The part comes from what is found below its key. -/
theorem exists_of_fillFrom (hkeeps : ∀ f ∈ front ++ back, f.key ≠ hole.key ∧ f.Keeps set)
    (hpart : IsPart get set) (hnodup : (entries.map Prod.fst).Nodup)
    (hlookup : entries.lookup hole.key = some x)
    (h : fillFrom (front ++ hole :: back) entries s = .ok s') :
    ∃ r r', hole.read x r = .ok r' ∧ get s' = get r' := by
  induction entries generalizing s with
  | nil => cases hlookup
  | cons e rest ih =>
    obtain ⟨key, d⟩ := e
    rw [List.map_cons, List.nodup_cons] at hnodup
    rw [fillFrom] at h
    by_cases hkey : hole.key = key
    · subst hkey
      rw [List.lookup_cons_self, Option.some.injEq] at hlookup
      subst hlookup
      rw [find?_hole fun f hf => (hkeeps f (List.mem_append_left _ hf)).1] at h
      obtain ⟨r, hread, h⟩ := under_bind_eq_ok_iff.mp h
      -- The keys are distinct, so that the entries after this one leave the part alone.
      exact ⟨s, r, hread, get_of_fillFrom hkeeps hpart hnodup.1 h⟩
    · have hne : (hole.key == key) = false := by simpa using hkey
      rw [List.lookup_cons, hne] at hlookup
      split at h
      · exact ih hnodup.2 hlookup h
      · obtain ⟨r, -, h⟩ := under_bind_eq_ok_iff.mp h
        exact ih hnodup.2 hlookup h

/-- A list that is read fills the fields in their order. -/
theorem fillInOrder_of_readRecord {dialect : Dialect} {name : String} {ds : List Datum}
    (h : readRecord dialect name fields s (.list ds) = .ok s') :
    fillInOrder 0 fields ds s = .ok s' := by
  simp only [readRecord] at h
  cases hfill : fillInOrder 0 fields ds s with
  | error f =>
    rw [hfill] at h
    cases h
  | ok r =>
    rw [hfill] at h
    change (if _ then _ else _) = _ at h
    split at h
    · cases h
    · exact h

/-! ## Where a reading fails -/

theorem exists_of_fillFrom_error {f : Fault} (hfront : ∀ g ∈ front, g.key ≠ hole.key)
    (hpath : f.path = hole.key :: path)
    (h : fillFrom (front ++ hole :: back) entries s = .error f) :
    ∃ x r g, hole.read x r = .error g ∧ g.path = path := by
  induction entries generalizing s with
  | nil => cases h
  | cons e rest ih =>
    obtain ⟨key, d⟩ := e
    rw [fillFrom] at h
    split at h
    · exact ih h
    · next k hfind =>
      rcases under_bind_eq_error_iff.mp h with ⟨g, hread, rfl⟩ | ⟨r, -, h⟩
      · obtain ⟨hkey, hrest⟩ := List.cons.inj hpath
        rw [hkey, find?_hole hfront] at hfind
        obtain rfl := Option.some.inj hfind
        exact ⟨d, s, g, hread, hrest⟩
      · exact ih h

theorem exists_of_fillInOrder_error {f : Fault} : ∀ {i : Nat} {fields : List (Field σ)}
    {ds : List Datum} {s : σ}, fillInOrder i fields ds s = .error f →
    ∃ j path, f.path = Text.natText j :: path
  | i, [], ds, s, h => by
    simp only [fillInOrder] at h
    cases h
  | i, k :: fields, [], s, h => by
    simp only [fillInOrder] at h
    cases h
  | i, k :: fields, d :: ds, s, h => by
    simp only [fillInOrder] at h
    rcases under_bind_eq_error_iff.mp h with ⟨g, -, rfl⟩ | ⟨r, -, h⟩
    · exact ⟨i, g.path, rfl⟩
    · exact exists_of_fillInOrder_error h

/-- A key with a character that is no digit is no place in a list. -/
theorem natText_ne {key : String} (h : ∃ c ∈ key.toList, Text.digit? c = none) (i : Nat) :
    Text.natText i ≠ key := by
  rintro rfl
  obtain ⟨c, hc, hnone⟩ := h
  rw [Text.natText, String.toList_ofList] at hc
  have hdigit := Text.isSome_digit?_of_mem hc
  rw [hnone] at hdigit
  cases hdigit

/-- **A fault below the key of a field is one of that field.** -/
theorem exists_of_readRecord_error {f : Fault} {dialect : Dialect} {name : String} {i : Nat}
    (hlone : Field.Lone fields hole i set) (hword : ∃ c ∈ hole.key.toList, Text.digit? c = none)
    (hpath : f.path = hole.key :: path) (h : readRecord dialect name fields s d = .error f) :
    ∃ x r g, hole.read x r = .error g ∧ g.path = path := by
  obtain ⟨front, back, rfl, -, hkeeps⟩ := hlone
  cases d with
  | table es =>
    exact exists_of_fillFrom_error (fun g hg => (hkeeps g (List.mem_append_left _ hg)).1) hpath h
  | list ds =>
    simp only [readRecord] at h
    cases hfill : fillInOrder 0 (front ++ hole :: back) ds s with
    | error g =>
      rw [hfill] at h
      obtain rfl := Except.error.inj h
      obtain ⟨j, rest, hplace⟩ := exists_of_fillInOrder_error hfill
      exact absurd (List.cons.inj (hplace.symm.trans hpath)).1 (natText_ne hword j)
    | ok r =>
      rw [hfill] at h
      change (if _ then _ else _) = _ at h
      split at h
      · obtain rfl := Except.error.inj h
        cases hpath
      · cases h
  | _ =>
    obtain rfl := Except.error.inj h
    cases hpath

/-- A fault of a text stands at the text. -/
theorem path_of_readText {f : Fault} (h : readText d = .error f) : f.path = [] := by
  cases d <;> cases h <;> rfl

end AccessBroker.Datum
