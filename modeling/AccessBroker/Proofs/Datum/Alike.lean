/-
Data that are alike but for one place.

A place is a path of keys and of places in lists. Two pieces of data are alike
but for it when they are equal everywhere else, and what stands at the place is
related (`Alike`). Laying such data over each other keeps them so
(`Alike.overlay`), if the relation is that of standing for two given pieces of
data (`Stands`): what is laid over a text hides it, and only tables are merged.
-/
import AccessBroker.Datum.Overlay
import AccessBroker.Proofs.Store.Entrywise

namespace AccessBroker.Datum

/-- A step into data: below a key of a table, or to an element of a list. -/
inductive Place where
  | key (k : String)
  | element (i : Nat)
  deriving DecidableEq

/-- A step as a fault spells it. -/
def Place.text : Place → String
  | key k => k
  | element i => Text.natText i

/-- Two pieces of data are equal, or alike but for what stands at the end of a path. -/
def Alike (R : Datum → Datum → Prop) : List Place → Datum → Datum → Prop
  | [], d, e => d = e ∨ R d e
  | .key k :: path, d, e =>
    d = e ∨ ∃ ds es, d = table ds ∧ e = table es ∧
      Store.Entrywise (fun key x y => if key = k then Alike R path x y else x = y) ds es
  | .element i :: path, d, e =>
    d = e ∨ ∃ before x y after, before.length = i ∧ d = list (before ++ x :: after) ∧
      e = list (before ++ y :: after) ∧ Alike R path x y

variable {R : Datum → Datum → Prop} {a b d e x y : Datum} {path : List Place}

theorem Alike.refl : ∀ (path : List Place) (d : Datum), Alike R path d d
  | [], _ => .inl rfl
  | .key _ :: _, _ => .inl rfl
  | .element _ :: _, _ => .inl rfl

/-! ## Standing for given data -/

/-- Whether data is a table. -/
def IsTable (d : Datum) : Prop := ∃ entries, d = table entries

theorem overlay_of_not_isTable (h : ¬IsTable d) (x : Datum) : overlay d x = d := by
  cases d with
  | table entries => exact absurd ⟨entries, rfl⟩ h
  | _ => rfl

theorem isTable_overlay (h : IsTable d) (x : Datum) : IsTable (overlay d x) := by
  obtain ⟨entries, rfl⟩ := h
  cases x with
  | table below => exact ⟨overlayEntries entries below, rfl⟩
  | _ => exact ⟨entries, rfl⟩

/-- Data is what was given, or a table as that was. -/
def Kin (a d : Datum) : Prop := d = a ∨ (IsTable a ∧ IsTable d)

/-- Two pieces of data stand for two that were given, unless both are tables. -/
def Stands (a b d e : Datum) : Prop := (Kin a d ∧ Kin b e) ∨ (IsTable d ∧ IsTable e)

theorem Kin.overlay (h : Kin a d) (x : Datum) : Kin a (overlay d x) := by
  by_cases hd : IsTable d
  · rcases h with rfl | ⟨ha, -⟩
    · exact .inr ⟨hd, isTable_overlay hd x⟩
    · exact .inr ⟨ha, isTable_overlay hd x⟩
  · rwa [overlay_of_not_isTable hd]

theorem Stands.overlay (h : Stands a b d e) (x y : Datum) :
    Stands a b (overlay d x) (overlay e y) := by
  rcases h with ⟨hd, he⟩ | ⟨hd, he⟩
  · exact .inl ⟨hd.overlay x, he.overlay y⟩
  · exact .inr ⟨isTable_overlay hd x, isTable_overlay he y⟩

/-! ## Layers -/

theorem overlayEntries_of_entrywise {P : String → Datum → Datum → Prop}
    (hP : ∀ key d e x y, P key d e → P key x y → P key (overlay d x) (overlay e y))
    {ds es xs ys : List (String × Datum)} (hes : Store.Entrywise P ds es)
    (hxs : Store.Entrywise P xs ys) :
    Store.Entrywise P (overlayEntries ds xs) (overlayEntries es ys) := by
  induction hes generalizing xs ys with
  | nil => exact hxs
  | @cons key d e ds es head tail ih =>
    rw [overlayEntries, overlayEntries]
    refine ih (hxs.put ?_)
    rcases hxs.lookup key with ⟨hx, hy⟩ | ⟨x, y, hx, hy, hxy⟩
    · rw [hx, hy]
      exact head
    · rw [hx, hy]
      exact hP key d e x y head hxy

/-- **Alike data laid over alike data.** -/
theorem Alike.overlay : ∀ {path : List Place} {d e x y : Datum}, Alike (Stands a b) path d e →
    Alike (Stands a b) path x y → Alike (Stands a b) path (overlay d x) (overlay e y)
  | [], d, e, x, y, hd, hx => by
    rcases hd with rfl | hd
    · by_cases htable : IsTable d
      · exact .inr (.inr ⟨isTable_overlay htable x, isTable_overlay htable y⟩)
      · exact .inl (by rw [overlay_of_not_isTable htable, overlay_of_not_isTable htable])
    · exact .inr (hd.overlay x y)
  | .key k :: path, d, e, x, y, hd, hx => by
    have hentries : ∀ {ds es xs ys : List (String × Datum)},
        Store.Entrywise (fun key x y => if key = k then Alike (Stands a b) path x y else x = y) ds es →
        Store.Entrywise (fun key x y => if key = k then Alike (Stands a b) path x y else x = y) xs ys →
        Alike (Stands a b) (.key k :: path) (.table (overlayEntries ds xs))
          (.table (overlayEntries es ys)) := by
      intro ds es xs ys hes hxs
      refine .inr ⟨_, _, rfl, rfl, overlayEntries_of_entrywise ?_ hes hxs⟩
      intro key d e x y hde hxy
      by_cases hkey : key = k
      · rw [if_pos hkey] at hde hxy ⊢
        exact Alike.overlay hde hxy
      · rw [if_neg hkey] at hde hxy ⊢
        rw [hde, hxy]
    have hrefl : ∀ xs : List (String × Datum), Store.Entrywise
        (fun key x y => if key = k then Alike (Stands a b) path x y else x = y) xs xs := by
      refine Store.Entrywise.refl fun key x => ?_
      split
      · exact Alike.refl path x
      · rfl
    rcases hd with rfl | ⟨ds, es, rfl, rfl, hes⟩
    · by_cases htable : IsTable d
      · obtain ⟨ds, rfl⟩ := htable
        rcases hx with rfl | ⟨xs, ys, rfl, rfl, hxs⟩
        · exact .inl rfl
        · exact hentries (hrefl ds) hxs
      · exact .inl (by rw [overlay_of_not_isTable htable, overlay_of_not_isTable htable])
    · rcases hx with rfl | ⟨xs, ys, rfl, rfl, hxs⟩
      · cases x with
        | table xs => exact hentries hes (hrefl xs)
        | _ => exact .inr ⟨ds, es, rfl, rfl, hes⟩
      · exact hentries hes hxs
  | .element i :: path, d, e, x, y, hd, hx => by
    rcases hd with rfl | ⟨before, d, e, after, hlength, rfl, rfl, hde⟩
    · by_cases htable : IsTable d
      · obtain ⟨ds, rfl⟩ := htable
        rcases hx with rfl | ⟨before, x, y, after, -, rfl, rfl, -⟩
        · exact .inl rfl
        -- A list is hidden by the table above it.
        · exact .inl rfl
      · exact .inl (by rw [overlay_of_not_isTable htable, overlay_of_not_isTable htable])
    · exact .inr ⟨before, d, e, after, hlength, rfl, rfl, hde⟩

/-! ## Where there is something -/

/-- Unless it leads further than the place in question, a path leads to something in both or in
neither. -/
theorem Alike.isSome_at? : ∀ {keys : List String} {d e : Datum},
    Alike R (keys.map .key) d e → ∀ {path : List String}, (keys <+: path → path = keys) →
    (at? path d).isSome = (at? path e).isSome
  | [], d, e, _, path, hpath => by
    rw [hpath List.nil_prefix, at?, at?]
    rfl
  | k :: keys, d, e, h, path, hpath => by
    rcases h with rfl | ⟨ds, es, rfl, rfl, hes⟩
    · rfl
    · cases path with
      | nil => rfl
      | cons key path =>
        rw [at?, at?]
        rcases hes.lookup key with ⟨hx, hy⟩ | ⟨x, y, hx, hy, hxy⟩
        · rw [hx, hy]
        · rw [hx, hy, Option.bind_some, Option.bind_some]
          split at hxy
          · next hkey =>
            refine Alike.isSome_at? hxy fun hprefix => ?_
            have hall := hpath (List.cons_prefix_cons.mpr ⟨hkey.symm, hprefix⟩)
            exact (List.cons.inj hall).2
          · rw [hxy]

end AccessBroker.Datum
