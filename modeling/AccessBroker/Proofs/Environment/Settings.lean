/-
The settings that variables give.

They hold each key once (`isKeyed_settings`). Two environments that differ in one variable give
settings that are alike but for what this variable gives (`alike_settings`), and where no other
variable gives the same setting, what is given is what the variable gives (`supplies_settings`).
-/
import AccessBroker.Environment.Settings
import AccessBroker.Proofs.Datum.Alike
import AccessBroker.Proofs.Datum.Record
import AccessBroker.Proofs.Environment.Value

namespace AccessBroker

namespace Datum

theorem alike_nested {R : Datum → Datum → Prop} {a b : Datum} (h : R a b) :
    ∀ path : List String, Alike R (path.map .key) (nested a path) (nested b path)
  | [] => .inr h
  | key :: path => by
    refine .inr ⟨_, _, rfl, rfl, .cons ?_ .nil⟩
    rw [if_pos rfl]
    exact alike_nested h path

end Datum

namespace Environment

open Datum

variable {path : List String} {n v w : String} {env : Environment}

/-- The settings below with those of a variable laid over them. -/
def laidOver (below : Datum) (e : String × String) : Datum :=
  match pathOf? e.1 with
  | some path => overlay (nested (valueOf e.2) path) below
  | none => below

theorem settings_eq (env : Environment) : env.settings = env.entries.foldl laidOver (.table []) :=
  rfl

theorem settings_insert_empty (hn : pathOf? n = some path) (v : String) :
    settings (Store.Table.empty.insert n v) = overlay (nested (valueOf v) path) (.table []) := by
  rw [settings_eq]
  change laidOver (.table []) (n, v) = _
  rw [laidOver, hn]

/-! ## Keys -/

theorem isKeyed_laidOver {d : Datum} (h : IsKeyed d) (e : String × String) :
    IsKeyed (laidOver d e) := by
  rw [laidOver]
  split
  · next path _ => exact ((isKeyed_valueOf e.2).nested path).overlay h
  · exact h

theorem isKeyed_foldl_laidOver : ∀ (entries : List (String × String)) {d : Datum}, IsKeyed d →
    IsKeyed (entries.foldl laidOver d)
  | [], _, h => h
  | e :: rest, _, h => isKeyed_foldl_laidOver rest (isKeyed_laidOver h e)

theorem isKeyed_settings (env : Environment) : IsKeyed env.settings :=
  isKeyed_foldl_laidOver env.entries .empty

/-! ## One variable -/

/-- Two variables of one name have the same value, or the two values of a variable in question. -/
def Varies (n v w key x y : String) : Prop := x = y ∨ key = n ∧ x = v ∧ y = w

theorem alike_laidOver {a b : Datum} (hn : pathOf? n = some path) (ha : valueOf v = a)
    (hb : valueOf w = b) {d e : Datum} (h : Alike (Stands a b) (path.map .key) d e)
    {key x y : String} (hxy : Varies n v w key x y) :
    Alike (Stands a b) (path.map .key) (laidOver d (key, x)) (laidOver e (key, y)) := by
  rcases hxy with rfl | ⟨rfl, rfl, rfl⟩
  · rw [laidOver, laidOver]
    split
    · exact Alike.overlay (.refl _ _) h
    · exact h
  · rw [laidOver, laidOver]
    simp only [hn, ha, hb]
    exact Alike.overlay (alike_nested (.inl ⟨.inl rfl, .inl rfl⟩) path) h

theorem alike_foldl_laidOver {a b : Datum} (hn : pathOf? n = some path) (ha : valueOf v = a)
    (hb : valueOf w = b) {xs ys : List (String × String)}
    (hxs : Store.Entrywise (Varies n v w) xs ys) : ∀ {d e : Datum},
    Alike (Stands a b) (path.map .key) d e →
    Alike (Stands a b) (path.map .key) (xs.foldl laidOver d) (ys.foldl laidOver e) := by
  induction hxs with
  | nil => exact fun h => h
  | cons head _ ih => exact fun h => ih (alike_laidOver hn ha hb h head)

/-- **Settings that differ in one variable.** -/
theorem alike_settings (env : Environment) {a b : Datum} (hn : pathOf? n = some path)
    (ha : valueOf v = a) (hb : valueOf w = b) : Alike (Stands a b) (path.map .key)
    (settings (env.insert n v)) (settings (env.insert n w)) := by
  have hentries : Store.Entrywise (Varies n v w) env.entries env.entries :=
    .refl (fun _ _ => .inl rfl) _
  rw [settings_eq, settings_eq]
  exact alike_foldl_laidOver hn ha hb (hentries.put (.inr ⟨rfl, rfl, rfl⟩)) (.refl _ _)

/-! ## A variable alone -/

/-- No variable of another name gives anything at the path of a setting, or hides it. -/
def Alone (n : String) (path : List String) (entries : List (String × String)) : Prop :=
  ∀ e ∈ entries, e.1 ≠ n → ∀ other, pathOf? e.1 = some other →
    ¬Gives path (nested (valueOf e.2) other)

theorem supplies_laidOver {a d : Datum} (h : Supplies a path d) {e : String × String}
    (hother : ∀ other, pathOf? e.1 = some other → ¬Gives path (nested (valueOf e.2) other)) :
    Supplies a path (laidOver d e) := by
  rw [laidOver]
  split
  · next other hpath =>
    exact h.beneath ((isKeyed_valueOf e.2).nested other) (hother other hpath)
  · exact h

theorem supplies_foldl_of_supplies {a : Datum} : ∀ {entries : List (String × String)} {d : Datum},
    Alone n path entries → n ∉ entries.map Prod.fst → Supplies a path d →
    Supplies a path (entries.foldl laidOver d)
  | [], _, _, _, h => h
  | e :: rest, d, halone, hnone, h => by
    rw [List.map_cons, List.mem_cons, not_or] at hnone
    have hrest : Alone n path rest := fun e he => halone e (List.mem_cons_of_mem _ he)
    rw [List.foldl_cons]
    exact supplies_foldl_of_supplies hrest hnone.2
      (supplies_laidOver h (halone e List.mem_cons_self (Ne.symm hnone.1)))

theorem supplies_foldl_laidOver (hn : pathOf? n = some path) :
    ∀ {entries : List (String × String)} {d : Datum}, Alone n path entries →
    (entries.map Prod.fst).Nodup → (n, v) ∈ entries →
    Supplies (valueOf v) path (entries.foldl laidOver d)
  | [], _, _, _, hmem => absurd hmem List.not_mem_nil
  | e :: rest, d, halone, hnodup, hmem => by
    rw [List.map_cons, List.nodup_cons] at hnodup
    have hrest : Alone n path rest := fun e he => halone e (List.mem_cons_of_mem _ he)
    rw [List.foldl_cons]
    rcases List.mem_cons.mp hmem with rfl | hmem
    · refine supplies_foldl_of_supplies hrest hnodup.1 ?_
      rw [laidOver, hn]
      exact (supplies_nested _ path).overlay ((isKeyed_valueOf v).nested path) d
    · exact supplies_foldl_laidOver hn hrest hnodup.2 hmem

/-- **What a variable alone gives.** -/
theorem supplies_settings (hn : pathOf? n = some path) (halone : Alone n path env.entries)
    (v : String) : Supplies (valueOf v) path (settings (env.insert n v)) := by
  have hmem : (n, v) ∈ Store.Table.put n v env.entries :=
    Store.Table.mem_of_lookup (Store.Table.lookup_put_self n v env.entries)
  have hput : Alone n path (Store.Table.put n v env.entries) := by
    intro e he hne
    rcases Store.Table.mem_of_mem_put he with rfl | he
    · exact absurd rfl hne
    · exact halone e he hne
  rw [settings_eq]
  exact supplies_foldl_laidOver hn hput (env.insert n v).nodup hmem

theorem supplies_of_mem (hn : pathOf? n = some path) (halone : Alone n path env.entries)
    (hmem : (n, v) ∈ env.entries) : Supplies (valueOf v) path env.settings :=
  supplies_foldl_laidOver hn halone env.nodup hmem

end Environment

end AccessBroker
