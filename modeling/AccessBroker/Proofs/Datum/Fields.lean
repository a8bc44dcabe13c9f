/-
What each field of a record is read from.

A record is read from a table by its keys, or from a list by its places (`field?`). Either way, where
something is given for a field it is read from that, and where nothing is it keeps its value
(`readOr_of_readRecord`). What is seen for a field of data in layers is what is below, if the data
above give nothing there and what is below is a table (`field?_overlay`).
-/
import AccessBroker.Proofs.Datum.Record

namespace AccessBroker.Datum

variable {σ τ : Type} {set : σ → τ → σ} {get : σ → τ} {read : Datum → Read τ} {key : String}
  {fields front back : List (Field σ)} {d x : Datum} {ds : List Datum} {s s' : σ} {path : List String}

/-- What data hold for a field of a record: under its key in a table, at its place in a list. -/
def field? (key : String) (i : Nat) : Datum → Option Datum
  | table es => es.lookup key
  | list ds => ds[i]?
  | _ => none

theorem IsKeyed.of_field? (h : IsKeyed d) {i : Nat} (hx : field? key i d = some x) : IsKeyed x := by
  cases h with
  | simple hlist htable =>
    cases d with
    | list ds => exact absurd rfl (hlist ds)
    | table es => exact absurd rfl (htable es)
    | _ => cases hx
  | list helements => exact helements x (List.mem_of_getElem? hx)
  | table _ hentries => exact hentries _ (Store.Table.mem_of_lookup hx)

/-! ## Reading -/

/-- A value is read where data are given, and is the one to start from where none are. -/
def ReadOr {α : Type} (read : Datum → Read α) (start : α) (x? : Option Datum) (v : α) : Prop :=
  match x? with
  | some x => read x = .ok v
  | none => v = start

theorem ReadOr.unique {α : Type} {read : Datum → Read α} {start v w : α} {x? : Option Datum}
    (hv : ReadOr read start x? v) (hw : ReadOr read start x? w) : v = w := by
  cases x? with
  | some x => exact Except.ok.inj (hv.symm.trans hw)
  | none => exact hv.trans hw.symm

/-- Elements for fields that leave the part alone. -/
theorem get_of_fillInOrder (hpart : IsPart get set) : ∀ {i : Nat} {fields : List (Field σ)}
    {ds : List Datum} {s : σ}, (∀ f ∈ fields, f.Keeps set) → fillInOrder i fields ds s = .ok s' →
    get s' = get s
  | _, [], _, _, _, h => by
    simp only [fillInOrder] at h
    rw [Except.ok.inj h]
  | _, _ :: _, [], _, _, h => by
    simp only [fillInOrder] at h
    rw [Except.ok.inj h]
  | i, f :: fields, d :: ds, s, hkeeps, h => by
    simp only [fillInOrder] at h
    obtain ⟨r, hread, h⟩ := under_bind_eq_ok_iff.mp h
    rw [get_of_fillInOrder hpart (fun g hg => hkeeps g (List.mem_cons_of_mem f hg)) h,
      (hkeeps f List.mem_cons_self).get_eq hpart hread]

theorem readOr_of_fillInOrder (hpart : IsPart get set) : ∀ {i : Nat} {front : List (Field σ)}
    {ds : List Datum} {s : σ}, (∀ f ∈ front ++ back, f.Keeps set) →
    fillInOrder i (front ++ .of key read set :: back) ds s = .ok s' →
    ReadOr read (get s) ds[front.length]? (get s')
  | _, [], [], _, _, h => by
    simp only [List.nil_append, fillInOrder] at h
    rw [Except.ok.inj h]
    rfl
  | i, [], d :: ds, s, hkeeps, h => by
    simp only [List.nil_append, fillInOrder] at h
    obtain ⟨r, hread, h⟩ := under_bind_eq_ok_iff.mp h
    obtain ⟨v, hv, rfl⟩ := Field.exists_of_read hread
    -- The fields after this one leave alone what it has put.
    rw [get_of_fillInOrder hpart hkeeps h, hpart.get_set]
    exact hv
  | _, _ :: _, [], _, _, h => by
    simp only [List.cons_append, fillInOrder] at h
    rw [Except.ok.inj h]
    rfl
  | i, f :: front, d :: ds, s, hkeeps, h => by
    simp only [List.cons_append, fillInOrder] at h
    obtain ⟨r, hread, h⟩ := under_bind_eq_ok_iff.mp h
    have hrest := readOr_of_fillInOrder hpart
      (fun g hg => hkeeps g (List.mem_cons_of_mem f hg)) h
    rw [(hkeeps f List.mem_cons_self).get_eq hpart hread] at hrest
    exact hrest

theorem readOr_of_fillFrom {entries : List (String × Datum)} (hpart : IsPart get set)
    (hkeeps : ∀ f ∈ front ++ back, f.key ≠ key ∧ f.Keeps set)
    (hnodup : (entries.map Prod.fst).Nodup)
    (h : fillFrom (front ++ .of key read set :: back) entries s = .ok s') :
    ReadOr read (get s) (entries.lookup key) (get s') := by
  cases hlookup : entries.lookup key with
  | some x =>
    obtain ⟨r, r', hread, hget⟩ := exists_of_fillFrom hkeeps hpart hnodup hlookup h
    obtain ⟨v, hv, rfl⟩ := Field.exists_of_read hread
    rw [hget, hpart.get_set]
    exact hv
  | none =>
    refine get_of_fillFrom hkeeps hpart (fun hmem => ?_) h
    obtain ⟨e, he, hkey⟩ := List.mem_map.mp hmem
    have hne : key ≠ e.1 := by simpa using List.lookup_eq_none_iff.mp hlookup e he
    exact hne hkey.symm

/-- **What is read for a field.** It is read from what the data hold for the field, and keeps its
value where they hold nothing. -/
theorem readOr_of_readRecord {dialect : Dialect} {name : String} {i : Nat}
    (hlone : Field.Lone fields (.of key read set) i set) (hpart : IsPart get set)
    (hkeyed : IsKeyed d) (h : readRecord dialect name fields s d = .ok s') :
    ReadOr read (get s) (field? key i d) (get s') := by
  obtain ⟨front, back, rfl, rfl, hkeeps⟩ := hlone
  cases d with
  | table es =>
    have hread := readOr_of_fillFrom hpart hkeeps (Store.nodup_inOrder es) h
    rwa [Store.lookup_inOrder hkeyed.nodup] at hread
  | list ds =>
    exact readOr_of_fillInOrder hpart (fun f hf => (hkeeps f hf).2) (fillInOrder_of_readRecord h)
  | _ => cases h

/-! ## Layers -/

/-- Over anything but a table, data are seen as they are. -/
theorem overlay_eq_self (d : Datum) (h : ∀ xs, x ≠ table xs) : overlay d x = d := by
  cases d with
  | table es =>
    cases x with
    | table xs => exact absurd rfl (h xs)
    | _ => rfl
  | _ => cases x <;> rfl

theorem field?_overlay_empty (hkeyed : IsKeyed d) (key : String) (i : Nat) :
    field? key i (overlay d (table [])) = field? key i d := by
  cases d with
  | table es =>
    rw [overlay, field?, field?, lookup_overlayEntries hkeyed.nodup, List.lookup_nil]
    cases es.lookup key <;> rfl
  | _ => rfl

/-- Along a path of a key and more that gives nothing there is a table. -/
theorem exists_table_of_not_gives (h : ¬Gives (key :: path) d) : ∃ es, d = table es ∧
    ∀ x, es.lookup key = some x → ¬Gives path x := by
  cases d with
  | table es => exact ⟨es, rfl, fun x hx hgives => h ⟨x, hx, hgives⟩⟩
  | _ => exact absurd trivial h

theorem lookup_eq_none_of_not_gives {es : List (String × Datum)} (h : ¬Gives [key] (table es)) :
    es.lookup key = none :=
  Option.eq_none_iff_forall_ne_some.mpr fun x hx => h ⟨x, hx, trivial⟩

/-- What is seen under a key of data that give nothing there, laid over other data. -/
theorem field?_overlay (hkeyed : IsKeyed d) (h : ¬Gives [key] d) (i : Nat) (x : Datum) :
    field? key i (overlay d x) =
      match x with
      | table xs => xs.lookup key
      | _ => none := by
  obtain ⟨es, rfl, -⟩ := exists_table_of_not_gives h
  have hnone := lookup_eq_none_of_not_gives h
  cases x with
  | table xs =>
    rw [overlay, field?, lookup_overlayEntries hkeyed.nodup, hnone]
  | _ =>
    rw [overlay_eq_self _ (by simp)]
    exact hnone

theorem not_gives_overlay : ∀ {path : List String} {d x : Datum}, IsKeyed d → ¬Gives path d →
    ¬Gives path x → ¬Gives path (overlay d x)
  | [], _, _, _, hd, _ => absurd trivial hd
  | key :: path, _, _, hkeyed, hd, hx => by
    obtain ⟨es, rfl, hes⟩ := exists_table_of_not_gives hd
    obtain ⟨xs, rfl, hxs⟩ := exists_table_of_not_gives hx
    rintro ⟨y, hlookup, hy⟩
    rw [lookup_overlayEntries hkeyed.nodup] at hlookup
    cases habove : es.lookup key with
    | none =>
      rw [habove] at hlookup
      exact hxs y hlookup hy
    | some d =>
      rw [habove] at hlookup
      cases hbelow : xs.lookup key with
      | none =>
        rw [hbelow] at hlookup
        exact hes y (habove.trans hlookup) hy
      | some z =>
        rw [hbelow] at hlookup
        rw [← Option.some.inj hlookup] at hy
        exact not_gives_overlay (hkeyed.of_lookup habove) (hes d habove) (hxs z hbelow) hy

/-- A path that is led away from, and does not end before, gives nothing. -/
theorem not_gives_nested : ∀ {path other : List String}, ¬path <+: other → ¬other <+: path →
    ∀ d : Datum, ¬Gives path (nested d other)
  | [], other, h, _, _ => absurd List.nil_prefix h
  | _ :: _, [], _, h, _ => absurd List.nil_prefix h
  | key :: path, key' :: other, h, h', d => by
    rintro ⟨x, hlookup, hx⟩
    by_cases hkey : key = key'
    · subst hkey
      rw [List.lookup_cons_self, Option.some.injEq] at hlookup
      subst hlookup
      rw [List.cons_prefix_cons] at h h'
      exact not_gives_nested (fun hp => h ⟨rfl, hp⟩) (fun hp => h' ⟨rfl, hp⟩) d hx
    · have hne : (key == key') = false := by simpa using hkey
      rw [List.lookup_cons, hne] at hlookup
      cases hlookup

end AccessBroker.Datum
