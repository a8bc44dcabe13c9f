/-
Alike data read side by side.

A record that is read from data alike but for one place comes out the same but for the
part that is kept there (`parallel_readRecord`): every field other than the one that holds
the part leaves it alone (`Field.Keeps`).
-/
import AccessBroker.Datum.Record
import AccessBroker.Proofs.Datum.Alike
import AccessBroker.Proofs.Parallel

namespace AccessBroker.Datum

/-- Two faults are told alike: at the same place and in the same words. -/
def Fault.Same (f g : Fault) : Prop :=
  f.path = g.path ∧ f.cause.settingMessage = g.cause.settingMessage

theorem Fault.Same.refl (f : Fault) : f.Same f := ⟨rfl, rfl⟩

variable {α β σ : Type} {P Q : Fault → Prop}

/-- No fault is expected. -/
def Never (_ : Fault) : Prop := False

/-- The faults that are expected of data below a key, if they are expected of the data by itself. -/
def Below (key : String) (P : Fault → Prop) (f : Fault) : Prop :=
  ∃ g, P g ∧ f = { g with path := key :: g.path }

section

variable {S : α → β → Prop} {x : Read α} {y : Read β}

theorem parallel_under (key : String) (h : Parallel Fault.Same P Q S x y) :
    Parallel Fault.Same (Below key P) (Below key Q) S (under key x) (under key y) := by
  cases x with
  | error f =>
    cases y with
    | error g =>
      rcases h with ⟨hpath, hcause⟩ | hf | hg
      · exact .inl ⟨congrArg (key :: ·) hpath, hcause⟩
      · exact .inr (.inl ⟨f, hf, rfl⟩)
      · exact .inr (.inr ⟨g, hg, rfl⟩)
    | ok t => exact ⟨f, h, rfl⟩
  | ok s =>
    cases y with
    | error g => exact ⟨g, h, rfl⟩
    | ok t => exact h

/-- Where no fault is expected of the data, none is below a key. -/
theorem parallel_under_never (key : String) (h : Parallel Fault.Same Never Never S x y) :
    Parallel Fault.Same P Q S (under key x) (under key y) :=
  (parallel_under key h).mono (fun _ ⟨_, hg, _⟩ => hg.elim) fun _ ⟨_, hg, _⟩ => hg.elim

end

/-! ## Records with a part -/

variable {τ : Type} {set : σ → τ → σ} {A B : τ → Prop}

/-- Two records are the same, or the same but for a part, with values that are expected of it. -/
def Apart (set : σ → τ → σ) (A B : τ → Prop) (s s' : σ) : Prop :=
  s = s' ∨ ∃ r t u, A t ∧ B u ∧ s = set r t ∧ s' = set r u

/-- A field leaves a part of the record alone. -/
def Field.Keeps (f : Field σ) (set : σ → τ → σ) : Prop :=
  ∀ d r t, f.read d (set r t) = (f.read d r).map (set · t)

theorem Field.keeps_of {key : String} {read : Datum → Read α} {put : σ → α → σ}
    (h : ∀ r t v, put (set r t) v = set (put r v) t) : (Field.of key read put).Keeps set := by
  intro d r t
  cases hread : read d with
  | error f => simp only [Field.of, hread, Except.map]
  | ok v => simp only [Field.of, hread, Except.map, h]

theorem Field.Keeps.parallel {f : Field σ} (hf : f.Keeps set) (d : Datum) {s s' : σ}
    (h : Apart set A B s s') : Parallel Fault.Same Never Never (Apart set A B) (f.read d s) (f.read d s') := by
  rcases h with rfl | ⟨r, t, u, ht, hu, rfl, rfl⟩
  · exact .refl .refl (fun _ => .inl rfl) _
  · rw [hf d r t, hf d r u]
    exact (Parallel.refl (S := Eq) .refl (fun _ => rfl) (f.read d r)).map fun r' r'' heq =>
      .inr ⟨r', t, u, ht, hu, rfl, heq ▸ rfl⟩

/-- What a field with a part of the record does to it: data of its own are put into the record, and
the part is a part of these. -/
structure Holds (put : σ → α → σ) (inner : α → τ → α) (set : σ → τ → σ) : Prop where
  put_set : ∀ r t v, put (set r t) v = put r v
  put_inner : ∀ r v t, put r (inner v t) = set (put r v) t

theorem Holds.parallel {key : String} {read : Datum → Read α} {put : σ → α → σ}
    {inner : α → τ → α} (hput : Holds put inner set) {d e : Datum}
    (h : Parallel Fault.Same P Q (Apart inner A B) (read d) (read e)) {s s' : σ} (hs : Apart set A B s s') :
    Parallel Fault.Same P Q (Apart set A B) ((Field.of key read put).read d s)
      ((Field.of key read put).read e s') := by
  have hsame : ∃ r, (∀ v, put s v = put r v) ∧ ∀ v, put s' v = put r v := by
    rcases hs with rfl | ⟨r, t, u, -, -, rfl, rfl⟩
    · exact ⟨s, fun _ => rfl, fun _ => rfl⟩
    · exact ⟨r, hput.put_set r t, hput.put_set r u⟩
  obtain ⟨r, hs, hs'⟩ := hsame
  refine h.map fun v v' hv => ?_
  rw [hs, hs']
  rcases hv with rfl | ⟨w, t, u, ht, hu, rfl, rfl⟩
  · exact .inl rfl
  · exact .inr ⟨put r w, t, u, ht, hu, hput.put_inner r w t, hput.put_inner r w u⟩

/-- A field stands at a place among fields, and it alone changes a part of the record. -/
def Field.Lone (fields : List (Field σ)) (hole : Field σ) (i : Nat) (set : σ → τ → σ) : Prop :=
  ∃ front back, fields = front ++ hole :: back ∧ front.length = i ∧
    ∀ f ∈ front ++ back, f.key ≠ hole.key ∧ f.Keeps set

/-! ## Reading a record -/

variable {R : Datum → Datum → Prop} {path : List Place} {front back : List (Field σ)}
  {hole : Field σ}

theorem find?_hole (hfront : ∀ f ∈ front, f.key ≠ hole.key) :
    (front ++ hole :: back).find? (fun f => f.key = hole.key) = some hole := by
  rw [List.find?_append, List.find?_eq_none.mpr fun f hf => by simpa using hfront f hf,
    Option.none_or, List.find?_cons_of_pos (by simp)]

theorem mem_of_find? {f : Field σ} {key : String}
    (h : (front ++ hole :: back).find? (fun f => f.key = key) = some f) (hkey : key ≠ hole.key) :
    f.key = key ∧ f ∈ front ++ back := by
  have hname : f.key = key := by simpa using List.find?_some h
  have hmem := List.mem_of_find?_eq_some h
  simp only [List.mem_append, List.mem_cons] at hmem ⊢
  rcases hmem with hmem | rfl | hmem
  · exact ⟨hname, .inl hmem⟩
  · exact absurd hname.symm hkey
  · exact ⟨hname, .inr hmem⟩

/-- The entries of two tables that are alike but for the data below one key. -/
theorem parallel_fillFrom
    (hkeeps : ∀ f ∈ front ++ back, f.key ≠ hole.key ∧ f.Keeps set)
    (hhole : ∀ d e s s', Alike R path d e → Apart set A B s s' →
      Parallel Fault.Same P Q (Apart set A B) (hole.read d s) (hole.read e s'))
    {ds es : List (String × Datum)} (hes : Store.Entrywise
      (fun key x y => if key = hole.key then Alike R path x y else x = y) ds es)
    {s s' : σ} (hs : Apart set A B s s') :
    Parallel Fault.Same (Below hole.key P) (Below hole.key Q) (Apart set A B)
      (fillFrom (front ++ hole :: back) ds s) (fillFrom (front ++ hole :: back) es s') := by
  -- From entry to entry the records stay the same but for the part.
  induction hes generalizing s s' with
  | nil => exact hs
  | @cons key d e ds es hde tail ih =>
    rw [fillFrom, fillFrom]
    by_cases hkey : key = hole.key
    · rw [if_pos hkey] at hde
      rw [hkey, find?_hole fun f hf => (hkeeps f (List.mem_append_left _ hf)).1]
      exact (parallel_under hole.key (hhole d e s s' hde hs)).bind fun t t' ht => ih ht
    · rw [if_neg hkey] at hde
      subst hde
      cases hfind : (front ++ hole :: back).find? fun f => f.key = key with
      | none => exact ih hs
      | some f =>
        have hmem := (mem_of_find? hfind hkey).2
        exact (parallel_under_never key ((hkeeps f hmem).2.parallel d hs)).bind fun t t' ht => ih ht

/-- The same elements for fields that leave the part alone. -/
theorem parallel_fillInOrder_keeps : ∀ {i : Nat} {fields : List (Field σ)} {ds : List Datum}
    {s s' : σ}, (∀ f ∈ fields, f.Keeps set) → Apart set A B s s' →
    Parallel Fault.Same P Q (Apart set A B) (fillInOrder i fields ds s) (fillInOrder i fields ds s')
  | _, [], _, _, _, _, hs => by
    simp only [fillInOrder]
    exact hs
  | _, _ :: _, [], _, _, _, hs => by
    simp only [fillInOrder]
    exact hs
  | i, f :: fields, d :: ds, s, s', hkeeps, hs => by
    simp only [fillInOrder]
    exact (parallel_under_never _ ((hkeeps f List.mem_cons_self).parallel d hs)).bind fun t t' ht =>
      parallel_fillInOrder_keeps (fun g hg => hkeeps g (List.mem_cons_of_mem f hg)) ht

/-- The elements of two lists that are alike but for the one that the part is read from. -/
theorem parallel_fillInOrder {d e : Datum} (after : List Datum)
    (hhole : ∀ s s', Apart set A B s s' →
      Parallel Fault.Same P Q (Apart set A B) (hole.read d s) (hole.read e s')) :
    ∀ {i : Nat} {front : List (Field σ)} {before : List Datum} {s s' : σ},
    (∀ f ∈ front ++ back, f.Keeps set) → before.length = front.length → Apart set A B s s' →
    Parallel Fault.Same (Below (Text.natText (i + front.length)) P) (Below (Text.natText (i + front.length)) Q)
      (Apart set A B) (fillInOrder i (front ++ hole :: back) (before ++ d :: after) s)
      (fillInOrder i (front ++ hole :: back) (before ++ e :: after) s')
  | i, [], [], s, s', hkeeps, _, hs => by
    simp only [List.nil_append, fillInOrder]
    exact (parallel_under _ (hhole s s' hs)).bind fun t t' ht => parallel_fillInOrder_keeps hkeeps ht
  | i, f :: front, x :: before, s, s', hkeeps, hlength, hs => by
    have hkeepsFront : ∀ g ∈ front ++ back, g.Keeps set := fun g hg =>
      hkeeps g (List.mem_cons_of_mem f hg)
    have hplace : i + (f :: front).length = i + 1 + front.length := by
      rw [List.length_cons]
      omega
    simp only [List.cons_append, fillInOrder, hplace]
    exact (parallel_under_never _ ((hkeeps f List.mem_cons_self).parallel x hs)).bind fun t t' ht =>
      parallel_fillInOrder after hhole hkeepsFront (Nat.succ.inj hlength) ht

/-- **A record read from alike data.** The place where the data differ is the key or the place of the
field that holds the part. -/
theorem parallel_readRecord {fields : List (Field σ)} {i : Nat} {dialect : Dialect} {name : String}
    {start : σ} {place : Place} (hlone : Field.Lone fields hole i set)
    (hplace : place = .key hole.key ∨ place = .element i)
    (hhole : ∀ d e s s', Alike R path d e → Apart set A B s s' →
      Parallel Fault.Same P Q (Apart set A B) (hole.read d s) (hole.read e s'))
    {d e : Datum} (h : Alike R (place :: path) d e) :
    Parallel Fault.Same (Below place.text P) (Below place.text Q) (Apart set A B)
      (readRecord dialect name fields start d) (readRecord dialect name fields start e) := by
  obtain ⟨front, back, rfl, rfl, hkeeps⟩ := hlone
  have hstart : Apart set A B start start := .inl rfl
  rcases hplace with rfl | rfl
  · rcases h with rfl | ⟨ds, es, rfl, rfl, hes⟩
    · exact .refl .refl (fun _ => .inl rfl) _
    · exact parallel_fillFrom hkeeps hhole hes.inOrder hstart
  · rcases h with rfl | ⟨before, x, y, after, hlength, rfl, rfl, hxy⟩
    · exact .refl .refl (fun _ => .inl rfl) _
    · have hsame : (before ++ x :: after).length = (before ++ y :: after).length := by
        rw [List.length_append, List.length_append, List.length_cons, List.length_cons]
      have hread := parallel_fillInOrder (i := 0) after (hhole x y · · hxy)
        (fun f hf => (hkeeps f hf).2) hlength hstart
      rw [Nat.zero_add] at hread
      simp only [readRecord, hsame]
      refine hread.bind fun t t' ht => ?_
      split
      · exact .inl (.refl _)
      · exact ht

/-! ## Reading a text -/

/-- The fault of given data that is no text. -/
def Untold (a : Datum) (f : Fault) : Prop :=
  f.path = [] ∧ ∃ g, readText a = .error g ∧ f.cause.settingMessage = g.cause.settingMessage

theorem Kin.readText {a d : Datum} (h : Kin a d) :
    (∀ t, Datum.readText d = .ok t → Datum.readText a = .ok t) ∧
      ∀ f, Datum.readText d = .error f → Untold a f := by
  rcases h with rfl | ⟨⟨as, rfl⟩, ⟨ds, rfl⟩⟩
  · refine ⟨fun t ht => ht, fun f hf => ⟨?_, f, hf, rfl⟩⟩
    cases d <;> cases hf <;> rfl
  · refine ⟨fun t ht => ?_, fun f hf => ?_⟩
    · cases ht
    · cases hf
      exact ⟨rfl, _, rfl, rfl⟩

/-- **A text read from data that stand for given data.** -/
theorem parallel_readText {a b d e : Datum} (h : Alike (Stands a b) [] d e) :
    Parallel Fault.Same (Untold a) (Untold b)
      (Apart (fun _ t => t) (readText a = .ok ·) (readText b = .ok ·)) (readText d) (readText e) := by
  rcases h with rfl | (⟨hd, he⟩ | ⟨⟨ds, rfl⟩, ⟨es, rfl⟩⟩)
  · exact .refl .refl (fun _ => .inl rfl) _
  · obtain ⟨hok, herror⟩ := hd.readText
    obtain ⟨hok', herror'⟩ := he.readText
    cases hreadD : readText d with
    | error f =>
      cases hreadE : readText e with
      | error g => exact .inr (.inl (herror f hreadD))
      | ok u => exact herror f hreadD
    | ok t =>
      cases hreadE : readText e with
      | error g => exact herror' g hreadE
      | ok u => exact .inr ⟨t, t, u, hok t hreadD, hok' u hreadE, rfl, rfl⟩
  · exact .inl ⟨rfl, rfl⟩

/-- **A text of a record read from data that stand for given data.** -/
theorem parallel_readRecord_text {fields : List (Field σ)} {i : Nat} {dialect : Dialect}
    {name key : String} {start : σ} {place : Place} {put : σ → String → σ} {a b d e : Datum}
    (hlone : Field.Lone fields (.of key readText put) i put)
    (hput : ∀ r t u, put (put r t) u = put r u)
    (hplace : place = .key key ∨ place = .element i) (h : Alike (Stands a b) [place] d e) :
    Parallel Fault.Same (Below place.text (Untold a)) (Below place.text (Untold b))
      (Apart put (readText a = .ok ·) (readText b = .ok ·))
      (readRecord dialect name fields start d) (readRecord dialect name fields start e) := by
  have hholds : Holds put (fun _ t => t) put := ⟨hput, fun r v t => (hput r v t).symm⟩
  exact parallel_readRecord hlone hplace
    (fun x y s s' hxy hs => hholds.parallel (parallel_readText hxy) hs) h

end AccessBroker.Datum
