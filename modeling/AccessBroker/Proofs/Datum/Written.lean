/-
Records that were written, read again.

A field that is given takes the value that is read for it (`fillFrom_cons`), so a written record is read
entry by entry. What every field keeps true is true of any record that is read
(`readRecord_invariant`), and data that every field reads alike make the same record
(`readRecord_alike`).
-/
import AccessBroker.Proofs.Datum.Record

namespace AccessBroker.Datum

variable {α σ : Type} {fields : List (Field σ)} {dialect : Dialect} {name : String} {start s s' : σ}
  {d e : Datum}

/-! ## Data of JSON values -/

theorem ofJsonList_eq (js : List Json) : ofJsonList js = js.map ofJson := by
  induction js with
  | nil => rfl
  | cons j js ih => rw [ofJsonList, ih, List.map_cons]

theorem ofJsonMembers_eq (members : List (String × Json)) :
    ofJsonMembers members = members.map fun m => (m.1, ofJson m.2) := by
  induction members with
  | nil => rfl
  | cons m members ih =>
    obtain ⟨name, j⟩ := m
    rw [ofJsonMembers, ih, List.map_cons]

mutual

/-- The data of a JSON value hold each key once. -/
theorem isKeyed_ofJson : ∀ j : Json, IsKeyed (ofJson j)
  | .null | .bool _ | .whole _ | .float _ | .text _ => .simple (by simp [ofJson]) (by simp [ofJson])
  | .array js => .list (isKeyed_ofJsonList js)
  | .object members => .table (Store.nodup_inOrder _) fun e he =>
    isKeyed_ofJsonMembers members e (Store.mem_of_mem_inOrder he)

theorem isKeyed_ofJsonList : ∀ js : List Json, ∀ d ∈ ofJsonList js, IsKeyed d
  | [] => List.forall_mem_nil _
  | j :: js => List.forall_mem_cons.mpr ⟨isKeyed_ofJson j, isKeyed_ofJsonList js⟩

theorem isKeyed_ofJsonMembers : ∀ members : List (String × Json),
    ∀ e ∈ ofJsonMembers members, IsKeyed e.2
  | [] => List.forall_mem_nil _
  | (_, j) :: members => List.forall_mem_cons.mpr ⟨isKeyed_ofJson j, isKeyed_ofJsonMembers members⟩

end

/-! ## Fields that are given -/

/-- The first entry is read for the field with its key, and the others after it. -/
theorem fillFrom_cons {key : String} {read : Datum → Read α} {put : σ → α → σ} {v : α}
    {rest : List (String × Datum)} {r : Read σ}
    (hfield : fields.find? (fun f => f.key = key) = some (.of key read put)) (hread : read d = .ok v)
    (hrest : fillFrom fields rest (put s v) = r) : fillFrom fields ((key, d) :: rest) s = r := by
  rw [fillFrom, hfield]
  simp only [Field.of, hread]
  exact hrest

/-! ## What every field keeps true -/

variable {P : σ → Prop}

theorem fillFrom_invariant (hfields : ∀ f ∈ fields, ∀ d s s', P s → f.read d s = .ok s' → P s')
    {entries : List (String × Datum)} (hs : P s) (h : fillFrom fields entries s = .ok s') : P s' := by
  induction entries generalizing s with
  | nil => exact Except.ok.inj h ▸ hs
  | cons e rest ih =>
    obtain ⟨key, d⟩ := e
    rw [fillFrom] at h
    split at h
    · exact ih hs h
    · next f hfind =>
      obtain ⟨r, hread, h⟩ := under_bind_eq_ok_iff.mp h
      exact ih (hfields f (List.mem_of_find?_eq_some hfind) d s r hs hread) h

theorem fillInOrder_invariant : ∀ {i : Nat} {fields : List (Field σ)} {ds : List Datum} {s : σ},
    (∀ f ∈ fields, ∀ d s s', P s → f.read d s = .ok s' → P s') → P s →
    fillInOrder i fields ds s = .ok s' → P s'
  | _, [], _, _, _, hs, h => by
    simp only [fillInOrder] at h
    exact Except.ok.inj h ▸ hs
  | _, _ :: _, [], _, _, hs, h => by
    simp only [fillInOrder] at h
    exact Except.ok.inj h ▸ hs
  | i, f :: fields, d :: ds, s, hfields, hs, h => by
    simp only [fillInOrder] at h
    obtain ⟨r, hread, h⟩ := under_bind_eq_ok_iff.mp h
    obtain ⟨hf, hrest⟩ := List.forall_mem_cons.mp hfields
    exact fillInOrder_invariant hrest (hf d s r hs hread) h

/-- **What is true of a record before it is read, and kept true by every field, is true of it when
it was read.** -/
theorem readRecord_invariant (hfields : ∀ f ∈ fields, ∀ d s s', P s → f.read d s = .ok s' → P s')
    (hstart : P start) (h : readRecord dialect name fields start d = .ok s) : P s := by
  cases d with
  | table es => exact fillFrom_invariant hfields hstart h
  | list ds => exact fillInOrder_invariant hfields hstart (fillInOrder_of_readRecord h)
  | _ => cases h

/-! ## Tables -/

theorem keys_of_readEntries {read : Datum → Read α} : ∀ {entries : List (String × Datum)}
    {values : List (String × α)}, readEntries read entries = .ok values →
    values.map Prod.fst = entries.map Prod.fst
  | [], _, h => by
    rw [← Except.ok.inj h]
    rfl
  | (key, d) :: rest, _, h => by
    obtain ⟨a, -, h⟩ := under_bind_eq_ok_iff.mp h
    cases hrest : readEntries read rest with
    | error f =>
      rw [hrest] at h
      cases h
    | ok more =>
      rw [hrest] at h
      rw [← Except.ok.inj h, List.map_cons, List.map_cons, keys_of_readEntries hrest]

/-- A table that was read is in the order of its keys. -/
theorem pairwise_of_readTable {read : Datum → Read α} {values : List (String × α)}
    (h : readTable read d = .ok values) : (values.map Prod.fst).Pairwise (· < ·) := by
  cases d with
  | table es =>
    rw [keys_of_readEntries h]
    exact Store.pairwise_inOrder es
  | _ => cases h

theorem readEntries_map {read : Datum → Read α} {write : α → Datum} (hread : ∀ a, read (write a) = .ok a) :
    ∀ values : List (String × α),
      readEntries read (values.map fun e => (e.1, write e.2)) = .ok values
  | [] => rfl
  | (key, a) :: values => by
    rw [List.map_cons, readEntries, hread, readEntries_map hread values]
    rfl

/-- A table that was written in order is read back. -/
theorem readTable_ofJson {read : Datum → Read α} {toJson : α → Json}
    (hread : ∀ a, read (ofJson (toJson a)) = .ok a) {values : List (String × α)}
    (h : (values.map Prod.fst).Pairwise (· < ·)) :
    readTable read (ofJson (.object (values.map fun e => (e.1, toJson e.2)))) = .ok values := by
  have hkeys : ((values.map fun e => (e.1, ofJson (toJson e.2))).map Prod.fst).Pairwise (· < ·) := by
    rwa [List.map_map]
  rw [ofJson, ofJsonMembers_eq, List.map_map, readTable]
  have hsame : ((fun m => (m.1, ofJson m.2)) ∘ fun e : String × α => (e.1, toJson e.2)) =
      fun e => (e.1, ofJson (toJson e.2)) := rfl
  rw [hsame, Store.inOrder_of_pairwise hkeys, Store.inOrder_of_pairwise hkeys,
    readEntries_map hread]

/-! ## Data that are read alike -/

section

variable {τ : Type} {set : σ → τ → σ} {front back : List (Field σ)} {hole : Field σ}
  {R : Datum → Datum → Prop} {path : List Place}

theorem fillFrom_alike (hfront : ∀ f ∈ front, f.key ≠ hole.key)
    (hhole : ∀ x y s, Alike R path x y → hole.read x s = hole.read y s)
    {ds es : List (String × Datum)} (hes : Store.Entrywise
      (fun key x y => if key = hole.key then Alike R path x y else x = y) ds es) (s : σ) :
    fillFrom (front ++ hole :: back) ds s = fillFrom (front ++ hole :: back) es s := by
  induction hes generalizing s with
  | nil => rfl
  | @cons key x y ds es head tail ih =>
    rw [fillFrom, fillFrom]
    split
    · exact ih s
    · next f hfind =>
      have hread : f.read x s = f.read y s := by
        split at head
        · next hkey =>
          rw [hkey, find?_hole hfront] at hfind
          exact Option.some.inj hfind ▸ hhole x y s head
        · rw [head]
      rw [hread]
      exact congrArg _ (funext ih)

theorem fillInOrder_alike {x y : Datum} (hxy : ∀ s, hole.read x s = hole.read y s)
    (after : List Datum) : ∀ {i : Nat} {front : List (Field σ)} {before : List Datum} {s : σ},
    before.length = front.length → fillInOrder i (front ++ hole :: back) (before ++ x :: after) s =
      fillInOrder i (front ++ hole :: back) (before ++ y :: after) s
  | _, [], [], s, _ => by simp only [List.nil_append, fillInOrder, hxy]
  | _, f :: front, d :: before, s, hlength => by
    simp only [List.cons_append, fillInOrder]
    exact congrArg _ (funext fun _ => fillInOrder_alike hxy after (Nat.succ.inj hlength))

/-- **Data that are alike but for one place, whose field reads them alike, make one record.** -/
theorem readRecord_alike {i : Nat} {place : Place} (hlone : Field.Lone fields hole i set)
    (hplace : place = .key hole.key ∨ place = .element i)
    (hhole : ∀ x y s, Alike R path x y → hole.read x s = hole.read y s)
    (h : Alike R (place :: path) d e) :
    readRecord dialect name fields start d = readRecord dialect name fields start e := by
  obtain ⟨front, back, rfl, rfl, hkeeps⟩ := hlone
  rcases hplace with rfl | rfl
  · rcases h with rfl | ⟨ds, es, rfl, rfl, hes⟩
    · rfl
    · have hfront : ∀ f ∈ front, f.key ≠ hole.key := fun f hf =>
        (hkeeps f (List.mem_append_left _ hf)).1
      exact fillFrom_alike hfront hhole hes.inOrder start
  · rcases h with rfl | ⟨before, x, y, after, hlength, rfl, rfl, hxy⟩
    · rfl
    · have hsame : (before ++ x :: after).length = (before ++ y :: after).length := by
        rw [List.length_append, List.length_append, List.length_cons, List.length_cons]
      simp only [readRecord, hsame, fillInOrder_alike (fun s => hhole x y s hxy) after hlength]

end

end AccessBroker.Datum
