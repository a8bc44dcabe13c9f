/-
The two spellings of a list of subnets.

The blocks of the network are given as a list, or as one text with commas between them (`spellings`).
Both are read as the same entries, and a configuration that gives one of them, at any of its places,
is read as one that gives the other (`subnetsAgree`).
-/
import AccessBroker.Network.Classifier
import AccessBroker.Proofs.Config.Settings
import AccessBroker.Proofs.Datum.Written
import AccessBroker.Proofs.Text.Split

namespace AccessBroker.Config

open Datum

/-- The ways to write a list of subnets. -/
def spellings (texts : List String) : List Datum :=
  [.list (texts.map .text), .text (",".intercalate texts)]

theorem list_mem_spellings (texts : List String) : .list (texts.map .text) ∈ spellings texts :=
  List.mem_cons_self

theorem text_mem_spellings (texts : List String) : .text (",".intercalate texts) ∈ spellings texts :=
  List.mem_cons_of_mem _ List.mem_cons_self

/-- The entries in their order, trimmed, without the blank ones. -/
theorem tidy_eq (texts : List String) :
    tidy texts = (texts.map Text.trim).filter fun s => !s.isEmpty := rfl

theorem texts?_map : ∀ texts : List String, texts? (texts.map .text) = some texts
  | [] => rfl
  | s :: texts => by rw [List.map_cons, texts?, texts?_map texts, Option.map_some]

theorem readSubnets_intercalate {texts : List String} (h : ∀ s ∈ texts, ',' ∉ s.toList) :
    readSubnets (.text (",".intercalate texts)) = .ok (tidy texts) := by
  have hchars : (",".intercalate texts).toList = List.intercalate [','] (texts.map String.toList) :=
    String.toList_intercalate
  rw [readSubnets, hchars]
  cases texts with
  -- Of no entries one empty text is made, which is dropped again.
  | nil => rfl
  | cons s texts =>
    have hparts : ∀ part ∈ (s :: texts).map String.toList, ',' ∉ part := by
      simpa only [List.forall_mem_map] using h
    have hback : (String.ofList ∘ String.toList) = id := funext fun _ => String.ofList_toList
    rw [Text.splitAll_intercalate (by simp) hparts, List.map_map, hback, List.map_id]

/-- Either way the entries are read. -/
theorem readSubnets_eq {texts : List String} (h : ∀ s ∈ texts, ',' ∉ s.toList) {x : Datum}
    (hx : x ∈ spellings texts) : readSubnets x = .ok (tidy texts) := by
  simp only [spellings, List.mem_cons, List.not_mem_nil, or_false] at hx
  rcases hx with rfl | rfl
  · rw [readSubnets, texts?_map]
  · exact readSubnets_intercalate h

/-! ## Configurations that give subnets -/

variable (dialect : Dialect)

/-- A configuration with other subnets. -/
def putSubnets (c : Config) (v : List String) : Config := { c with subnets := v }

theorem isPart_subnets : IsPart Config.subnets putSubnets :=
  ⟨fun _ _ => rfl, fun _ => rfl, fun _ _ _ => rfl⟩

theorem lone_network : Field.Lone (Config.fields dialect) (.of "campus_network"
    (only dialect "CampusNetworkConfig" "subnets" readSubnets default.subnets) putSubnets) 4
    putSubnets := by
  refine lone_of_take rfl ?_
  repeat first
    | exact List.forall_mem_nil _
    | refine List.forall_mem_cons.mpr ⟨⟨by simp [Field.of], Field.keeps_of fun _ _ _ => rfl⟩, ?_⟩

theorem lone_subnets : Field.Lone [Field.of "subnets" readSubnets fun _ v => v]
    (.of "subnets" readSubnets fun _ v => v) 0 fun _ v => v :=
  lone_of_take rfl (List.forall_mem_nil _)

/-- The subnets of a configuration are read from what is given for them. -/
theorem readOr_subnets {d : Datum} {c : Config} (hkeyed : IsKeyed d)
    (h : Config.read dialect d = .ok c) :
    ReadOr readSubnets [] (Setting.data? (.member .subnets) d) c.subnets := by
  have hpart : IsPart (id : List String → List String) fun _ v => v :=
    ⟨fun _ _ => rfl, fun _ => rfl, fun _ _ _ => rfl⟩
  have hgroup := readOr_of_readRecord (lone_network dialect) isPart_subnets hkeyed h
  change ReadOr readSubnets [] ((field? "campus_network" 4 d).bind (field? "subnets" 0)) c.subnets
  cases hfield : field? "campus_network" 4 d with
  | none =>
    rw [hfield] at hgroup
    exact hgroup
  | some x =>
    rw [hfield] at hgroup
    exact readOr_of_readRecord lone_subnets hpart (hkeyed.of_field? hfield) hgroup

/-- Spellings of one list are one setting, wherever it is given. -/
structure SubnetsAgree (texts : List String) : Prop where
  readSubnets_eq : ∀ x ∈ spellings texts,
    readSubnets x = .ok ((texts.map Text.trim).filter fun s => !s.isEmpty)
  subnets_eq : ∀ x ∈ spellings texts, ∀ dialect d c, IsKeyed d →
    Setting.data? (.member .subnets) d = some x → Config.read dialect d = .ok c →
    c.subnets = (texts.map Text.trim).filter fun s => !s.isEmpty
  classifier_eq : ∀ x ∈ spellings texts, ∀ y ∈ spellings texts, ∀ dialect d e c c', IsKeyed d →
    IsKeyed e → Setting.data? (.member .subnets) d = some x →
    Setting.data? (.member .subnets) e = some y → Config.read dialect d = .ok c →
    Config.read dialect e = .ok c' →
    Network.Classifier.ofTexts c.subnets = Network.Classifier.ofTexts c'.subnets
  read_eq : ∀ dialect d e place inner, place ∈ [Place.key "campus_network", .element 4] →
    inner ∈ [Place.key "subnets", .element 0] →
    Alike (fun x y => x ∈ spellings texts ∧ y ∈ spellings texts) [place, inner] d e →
    Config.read dialect d = Config.read dialect e

/-- The subnets of a configuration that gives one of the spellings. -/
theorem subnets_of_read {texts : List String} (h : ∀ s ∈ texts, ',' ∉ s.toList) {x d : Datum}
    (hx : x ∈ spellings texts) {c : Config} (hkeyed : IsKeyed d)
    (hdata : Setting.data? (.member .subnets) d = some x) (hread : Config.read dialect d = .ok c) :
    c.subnets = tidy texts := by
  have hsubnets := readOr_subnets dialect hkeyed hread
  rw [hdata] at hsubnets
  exact Except.ok.inj (hsubnets.symm.trans (readSubnets_eq h hx))

theorem subnetsAgree {texts : List String} (h : ∀ s ∈ texts, ',' ∉ s.toList) :
    SubnetsAgree texts where
  readSubnets_eq x hx := readSubnets_eq h hx
  subnets_eq x hx dialect d c := subnets_of_read dialect h hx
  classifier_eq x hx y hy dialect d e c c' hd he hdata hother hread hread' := by
    rw [subnets_of_read dialect h hx hd hdata hread, subnets_of_read dialect h hy he hother hread']
  read_eq dialect d e place inner hplace hinner halike := by
    simp only [List.mem_cons, List.not_mem_nil, or_false] at hplace hinner
    refine readRecord_alike (lone_network dialect) hplace (fun x y c hxy => ?_) halike
    have hnetwork : only dialect "CampusNetworkConfig" "subnets" readSubnets default.subnets x =
        only dialect "CampusNetworkConfig" "subnets" readSubnets default.subnets y := by
      refine readRecord_alike lone_subnets hinner (fun x y v hxy => ?_) hxy
      rcases hxy with rfl | ⟨hx, hy⟩
      · rfl
      · simp only [Field.of, readSubnets_eq h hx, readSubnets_eq h hy]
    simp only [Field.of, hnetwork]

end AccessBroker.Config
