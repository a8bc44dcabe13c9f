/-
Configurations that were written, read again.

A configuration that was read has its subnets tidied and its tables in the order of their keys
(`Normal`), whatever it was read from. Such a configuration is written with every field, so that
reading it takes nothing from the defaults and gives it back (`read_toJson`).
-/
import AccessBroker.Proofs.Config.Subnets
import AccessBroker.Proofs.Json.Tree
import AccessBroker.Proofs.Text.Blank

namespace AccessBroker

open Datum

/-! ## Simple settings -/

/-- A whole number within its bits is read. -/
theorem Datum.readNat_of_lt {bits n : Nat} (h : n < Nat.pow 2 bits) :
    readNat bits (.whole n) = .ok n := by
  have hbits : 0 ≤ (n : Int) ∧ (n : Int) < Nat.pow 2 bits := ⟨n.cast_nonneg, Int.ofNat_lt.mpr h⟩
  simp only [readNat, if_pos hbits, Int.toNat_natCast]

theorem Datum.readPort_ofNat (n : UInt16) : readPort (ofJson (.ofNat n.toNat)) = .ok n := by
  change (readNat 16 (.whole n.toNat)).map UInt16.ofNat = _
  rw [readNat_of_lt n.toNat_lt, Except.map, UInt16.ofNat_toNat]

theorem Datum.readWord_ofWord (n : UInt64) : readWord (ofJson (.ofWord n)) = .ok n := by
  change (readNat 64 (.whole n.toNat)).map UInt64.ofNat = _
  rw [readNat_of_lt n.toNat_lt, Except.map, UInt64.ofNat_toNat]

theorem Datum.readOption_ofWord : ∀ n : Option UInt64,
    readOption readWord (ofJson (.ofOption .ofWord n)) = .ok n
  | none => rfl
  | some n => by
    change (readWord (ofJson (.ofWord n))).map some = _
    rw [readWord_ofWord]
    rfl

theorem AccessMode.read_toJson (dialect : Dialect) (m : AccessMode) :
    read dialect (Datum.ofJson m.toJson) = .ok m := by
  cases m <;> rfl

/-! ## Groups -/

variable (dialect : Dialect)

theorem ServerConfig.read_toJson (start s : ServerConfig) :
    readRecord dialect "ServerConfig" fields start (ofJson s.toJson) = .ok s := by
  change fillFrom fields [("host", .text s.host), ("port", ofJson (.ofNat s.port.toNat)),
    ("request_timeout_secs", ofJson (.ofWord s.requestTimeout)),
    ("trust_forwarded_for", .bool s.trustForwardedFor)] start = _
  refine fillFrom_cons rfl rfl ?_
  refine fillFrom_cons rfl (readPort_ofNat s.port) ?_
  refine fillFrom_cons rfl (readWord_ofWord s.requestTimeout) ?_
  refine fillFrom_cons rfl rfl ?_
  rfl

theorem CookieConfig.read_toJson (start s : CookieConfig) :
    readRecord dialect "CookieConfig" fields start (ofJson s.toJson) = .ok s := by
  change fillFrom fields [("max_age_secs", ofJson (.ofOption .ofWord s.maxAge)),
    ("name", .text s.name), ("password", .text s.password), ("salt", .text s.salt),
    ("secure", .bool s.secure),
    ("window_close_delay_secs", ofJson (.ofWord s.windowCloseDelay))] start = _
  refine fillFrom_cons rfl (readOption_ofWord s.maxAge) ?_
  refine fillFrom_cons rfl rfl ?_
  refine fillFrom_cons rfl rfl ?_
  refine fillFrom_cons rfl rfl ?_
  refine fillFrom_cons rfl rfl ?_
  refine fillFrom_cons rfl (readWord_ofWord s.windowCloseDelay) ?_
  rfl

theorem ExternalConfig.read_toJson (start s : ExternalConfig) :
    readRecord dialect "ExternalConfig" fields start (ofJson s.toJson) = .ok s := by
  change fillFrom fields [("ciphertext_cookie", .text s.ciphertextCookie),
    ("date_format", .text s.dateFormat), ("iv_cookie", .text s.initialCookie),
    ("secret", .text s.secret), ("valid_prefix", .text s.word)] start = _
  refine fillFrom_cons rfl rfl ?_
  refine fillFrom_cons rfl rfl ?_
  refine fillFrom_cons rfl rfl ?_
  refine fillFrom_cons rfl rfl ?_
  refine fillFrom_cons rfl rfl ?_
  rfl

namespace Config

/-- A record of one field is read from an object of one member. -/
theorem only_ofJson {α : Type} {name key : String} {read : Datum → Read α} {start a : α} {j : Json}
    (h : read (Datum.ofJson j) = .ok a) :
    only dialect name key read start (Datum.ofJson (.object [(key, j)])) = .ok a :=
  fillFrom_cons (List.find?_cons_of_pos (by simp [Field.of])) h rfl

/-! ## Normal configurations -/

/-- Entries that are tidied stay as they are. -/
theorem tidy_tidy (texts : List String) : tidy (tidy texts) = tidy texts := by
  have htrim : (tidy texts).map Text.trim = tidy texts := by
    refine (List.map_congr_left fun s hs => ?_).trans (List.map_id _)
    obtain ⟨t, -, rfl⟩ := List.mem_map.mp (List.mem_of_mem_filter hs)
    exact Text.trim_trim t
  rw [tidy_eq (tidy texts), htrim]
  exact List.filter_eq_self.mpr fun s hs => (List.mem_filter.mp hs).2

/-- Reading the subnets, or the tables, of a configuration once more would change nothing. -/
structure Normal (c : Config) : Prop where
  subnets : tidy c.subnets = c.subnets
  origins : (c.origins.map Prod.fst).Pairwise (· < ·)
  modes : (c.modes.map Prod.fst).Pairwise (· < ·)

theorem tidy_of_readSubnets {d : Datum} {texts : List String} (h : readSubnets d = .ok texts) :
    tidy texts = texts := by
  cases d with
  | text s =>
    rw [← Except.ok.inj h, tidy_tidy]
  | list ds =>
    rw [readSubnets] at h
    split at h
    · rw [← Except.ok.inj h, tidy_tidy]
    · cases h
  | _ => cases h

/-- What is read for the one field of a record has what it starts with, and what every value that
is read for it has. -/
theorem only_invariant {α : Type} {P : α → Prop} {name key : String} {read : Datum → Read α}
    {start a : α} {d : Datum} (hread : ∀ d a, read d = .ok a → P a) (hstart : P start)
    (h : only dialect name key read start d = .ok a) : P a := by
  refine readRecord_invariant (fun f hf d r r' _ hr => ?_) hstart h
  rw [List.mem_singleton.mp hf] at hr
  obtain ⟨v, hv, heq⟩ := Field.exists_of_read hr
  rw [heq]
  exact hread d v hv

/-- **What is read is normal.** -/
theorem normal_of_read {d : Datum} {c : Config} (h : Config.read dialect d = .ok c) : c.Normal := by
  have hdefault : default.Normal := ⟨rfl, .nil, .nil⟩
  refine readRecord_invariant (fun f hf d c c' hc hread => ?_) hdefault h
  simp only [fields, List.mem_cons, List.not_mem_nil, or_false] at hf
  rcases hf with rfl | rfl | rfl | rfl | rfl | rfl | rfl | rfl
  all_goals
    obtain ⟨v, hv, rfl⟩ := Field.exists_of_read hread
  · exact ⟨hc.subnets, hc.origins, hc.modes⟩
  · exact ⟨hc.subnets, hc.origins, hc.modes⟩
  · exact ⟨hc.subnets, hc.origins, hc.modes⟩
  · exact ⟨hc.subnets, hc.origins, hc.modes⟩
  · have hsubnets := only_invariant (P := fun texts => tidy texts = texts) dialect
      (fun _ _ => tidy_of_readSubnets) rfl hv
    exact ⟨hsubnets, hc.origins, hc.modes⟩
  · exact ⟨hc.subnets, hc.origins, hc.modes⟩
  · have horigins := only_invariant (P := fun values => (values.map Prod.fst).Pairwise (· < ·))
      dialect (fun _ _ => pairwise_of_readTable) .nil hv
    exact ⟨hc.subnets, horigins, hc.modes⟩
  · have hmodes := only_invariant (P := fun values => (values.map Prod.fst).Pairwise (· < ·))
      dialect (fun _ _ => pairwise_of_readTable) .nil hv
    exact ⟨hc.subnets, hc.origins, hmodes⟩

/-! ## Written configurations -/

theorem readSubnets_ofJson {texts : List String} (h : tidy texts = texts) :
    readSubnets (Datum.ofJson (.array (texts.map .text))) = .ok texts := by
  have hdata : Datum.ofJsonList (texts.map .text) = texts.map .text := by
    rw [ofJsonList_eq, List.map_map]
    rfl
  simp only [Datum.ofJson, hdata, readSubnets, texts?_map, h]

/-- **A normal configuration is read back.** -/
theorem read_toJson {c : Config} (h : c.Normal) :
    Config.read dialect (Datum.ofJson c.toJson) = .ok c := by
  change fillFrom (fields dialect)
    [("campus_network", Datum.ofJson (.object [("subnets", .array (c.subnets.map .text))])),
      ("cookie", Datum.ofJson c.cookie.toJson),
      ("degraded_access", Datum.ofJson (.object
        [("origins", .object (c.origins.map fun e => (e.1, .bool e.2)))])),
      ("external", Datum.ofJson c.external.toJson),
      ("items", Datum.ofJson (.object
        [("access_modes", .object (c.modes.map fun e => (e.1, e.2.toJson)))])),
      ("server", Datum.ofJson c.server.toJson),
      ("token", Datum.ofJson (.object [("expires_in", .ofOption .ofWord c.expiresIn)])),
      ("version", .text c.version)] default = _
  refine fillFrom_cons rfl (only_ofJson dialect (readSubnets_ofJson h.subnets)) ?_
  refine fillFrom_cons rfl (CookieConfig.read_toJson dialect _ c.cookie) ?_
  refine fillFrom_cons rfl (only_ofJson dialect (readTable_ofJson (fun _ => rfl) h.origins)) ?_
  refine fillFrom_cons rfl (ExternalConfig.read_toJson dialect _ c.external) ?_
  refine fillFrom_cons rfl
    (only_ofJson dialect (readTable_ofJson (AccessMode.read_toJson dialect) h.modes)) ?_
  refine fillFrom_cons rfl (ServerConfig.read_toJson dialect _ c.server) ?_
  refine fillFrom_cons rfl (only_ofJson dialect (readOption_ofWord c.expiresIn)) ?_
  refine fillFrom_cons rfl rfl ?_
  rfl

/-! ## The text of a configuration -/

theorem isExact_toJson (c : Config) : c.toJson.IsExact := by
  have hport : (Json.ofNat c.server.port.toNat).IsExact := by
    have hlt := c.server.port.toNat_lt
    simp only [Json.ofNat, Json.IsExact]
    omega
  have hoption : ∀ n : Option UInt64, (Json.ofOption .ofWord n).IsExact := by
    intro n
    cases n with
    | none => trivial
    | some n => exact Json.isExact_ofWord n
  have hsubnets : Json.AreExact (c.subnets.map .text) :=
    Json.areExact_iff.mpr (List.forall_mem_map.mpr fun _ _ => trivial)
  have horigins : Json.MembersAreExact (c.origins.map fun e => (e.1, .bool e.2)) :=
    Json.membersAreExact_iff.mpr (List.forall_mem_map.mpr fun _ _ => trivial)
  have hmodes : Json.MembersAreExact (c.modes.map fun e => (e.1, e.2.toJson)) :=
    Json.membersAreExact_iff.mpr (List.forall_mem_map.mpr fun _ _ => trivial)
  simp only [toJson, ServerConfig.toJson, CookieConfig.toJson, ExternalConfig.toJson, Json.IsExact,
    Json.MembersAreExact, Json.isExact_ofWord, hport, hoption, hsubnets, horigins, hmodes, and_self]

theorem depth_toJson_le (g : Char → List Char) (c : Config) : (c.toJson.tree g).depth ≤ 3 := by
  have hoption : ∀ n : Option UInt64, ((Json.ofOption .ofWord n).tree g).depth = 0 := by
    intro n
    cases n <;> rfl
  have hsubnets : Json.Tree.depthList (Json.trees g (c.subnets.map .text)) = 0 :=
    Nat.le_zero.mp (Json.depthList_trees_le (List.forall_mem_map.mpr fun _ _ => Nat.le_refl 0))
  have horigins : Json.Tree.depthMembers
      (Json.memberTrees g (c.origins.map fun e => (e.1, .bool e.2))) = 0 :=
    Nat.le_zero.mp
      (Json.depthMembers_memberTrees_le (List.forall_mem_map.mpr fun _ _ => Nat.le_refl 0))
  have hmodes : Json.Tree.depthMembers
      (Json.memberTrees g (c.modes.map fun e => (e.1, e.2.toJson))) = 0 :=
    Nat.le_zero.mp
      (Json.depthMembers_memberTrees_le (List.forall_mem_map.mpr fun _ _ => Nat.le_refl 0))
  simp [toJson, ServerConfig.toJson, CookieConfig.toJson, ExternalConfig.toJson, Json.tree,
    Json.memberTrees, Json.Tree.depth, Json.Tree.depthMembers, Json.ofWord, Json.ofNat, hoption,
    hsubnets, horigins, hmodes]

theorem read_of_ofJson {j : Json} {c : Config} (h : ofJson j = .ok c) :
    Config.read .json (Datum.ofJson j) = .ok c := by
  rw [ofJson] at h
  cases hread : Config.read .json (Datum.ofJson j) with
  | error f =>
    rw [hread] at h
    cases h
  | ok r =>
    rw [hread] at h
    rw [Except.ok.inj h]

/-- **Configurations that say the same are read alike, and as what they are written as.** Entries
without commas are one list of subnets whichever way they are spelled; and whatever JSON value a
configuration was read from, its own is read as the same configuration, also from its text. -/
theorem spellings_agree_and_read_back :
    (∀ texts : List String, (∀ s ∈ texts, ',' ∉ s.toList) → SubnetsAgree texts) ∧
    ∀ j c, ofJson j = .ok c →
      ofJson c.toJson = .ok c ∧ Json.read? c.toJson.write = some c.toJson := by
  refine ⟨fun texts => subnetsAgree, fun j c h => ⟨?_, ?_⟩⟩
  · have hnormal := normal_of_read .json (read_of_ofJson h)
    rw [ofJson, read_toJson .json hnormal, causeOnly]
  · have hdepth := depth_toJson_le Json.escapeChar c
    exact Json.read?_write (isExact_toJson c) (Nat.le_trans hdepth (by decide))

/-- A configuration that gives subnets in some way, and items out of order. -/
def sampleJson (subnets : Json) : Json :=
  .object [("campus_network", .object [("subnets", subnets)]),
    ("items", .object [("access_modes", .object [("z", .text "OPEN"), ("a", .text "TIERED")])])]

/-- What it is read as if it gives one block twice. -/
def sampleRead : Config :=
  { default with
    subnets := ["10.0.0.0/8", "10.0.0.0/8"]
    modes := [("a", .tiered), ("z", .open)] }

theorem alike_sampleJson {R : Datum → Datum → Prop} {x y : Json}
    (h : R (Datum.ofJson x) (Datum.ofJson y)) : Alike R [.key "campus_network", .key "subnets"]
      (Datum.ofJson (sampleJson x)) (Datum.ofJson (sampleJson y)) := by
  have hsubnets : Alike R [.key "subnets"] (Datum.ofJson (.object [("subnets", x)]))
      (Datum.ofJson (.object [("subnets", y)])) :=
    .inr ⟨_, _, rfl, rfl, .cons ((iff_of_eq (if_pos rfl)).mpr (.inr h)) .nil⟩
  exact .inr ⟨_, _, rfl, rfl, .cons ((iff_of_eq (if_pos rfl)).mpr hsubnets)
    (.cons ((iff_of_eq (if_neg (by decide))).mpr rfl) .nil)⟩

/-- A list with blank entries and one block twice, spelled both ways and read back. -/
theorem spellings_agree_and_read_back_sample :
    (∀ s ∈ [" 10.0.0.0/8", "", "10.0.0.0/8 "], ',' ∉ s.toList) ∧
    Config.read .json (Datum.ofJson
        (sampleJson (.array [.text " 10.0.0.0/8", .text "", .text "10.0.0.0/8 "]))) =
      Config.read .json (Datum.ofJson (sampleJson (.text " 10.0.0.0/8,,10.0.0.0/8 "))) ∧
    ofJson (sampleJson (.text " 10.0.0.0/8,,10.0.0.0/8 ")) = .ok sampleRead ∧
    sampleRead.subnets = ([" 10.0.0.0/8", "", "10.0.0.0/8 "].map Text.trim).filter (!·.isEmpty) ∧
    ofJson sampleRead.toJson = .ok sampleRead ∧
    Json.read? sampleRead.toJson.write = some sampleRead.toJson := by
  have htexts : ∀ s ∈ [" 10.0.0.0/8", "", "10.0.0.0/8 "], ',' ∉ s.toList := by decide
  have hread : ofJson (sampleJson (.text " 10.0.0.0/8,,10.0.0.0/8 ")) = .ok sampleRead := by rfl
  obtain ⟨hall, hwritten⟩ := spellings_agree_and_read_back
  have hagree := hall _ htexts
  refine ⟨htexts, ?_, hread, ?_, hwritten _ _ hread⟩
  · exact hagree.read_eq .json _ _ _ _ List.mem_cons_self List.mem_cons_self
      (alike_sampleJson ⟨list_mem_spellings _, text_mem_spellings _⟩)
  · exact hagree.subnets_eq _ (text_mem_spellings _) .json _ _ (isKeyed_ofJson _) rfl
      (read_of_ofJson hread)

end Config

end AccessBroker
