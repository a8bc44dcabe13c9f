/-
The modes of items in answers.

A path of items ends in the text of one as a segment (`Route.ofPath?_access`), so a request for it
asks for the text that was put there. The mode under its key is the one that was given for it where
no two of the names given have one key (`get?_ofList_of_nodup`), and the answer tells this mode, or
gives back the text in a sentence (`respond_access`).
-/
import AccessBroker.Proofs.Broker.Origins
import AccessBroker.Proofs.Http.Target
import AccessBroker.Proofs.Store.Seeding

namespace AccessBroker

/-! ## Modes that are given -/

namespace ItemModes

theorem get?_ofList (modes : List (String × AccessMode)) (item : String) :
    (ofList modes).get? item = (Store.Table.ofPairs key modes).get? (key item) := by
  rw [get?, table_ofList]

theorem get?_ofList_of_nodup {modes : List (String × AccessMode)}
    (hdistinct : (modes.map fun p => Text.trim p.1).Nodup) {id item : String} {m : AccessMode}
    (hmem : (id, m) ∈ modes) (hid : Text.trim id = Text.trim item) :
    (ofList modes).get? item = some m := by
  have hagree : Store.Table.AgreeOn key (key item) modes :=
    Store.Table.agreeOn_of_nodup hdistinct _
  rw [get?_ofList]
  exact Store.Table.get?_ofPairs_of_agreeOn hagree hmem hid

theorem get?_ofList_of_ne {modes : List (String × AccessMode)} {item : String}
    (hnone : ∀ id m, (id, m) ∈ modes → Text.trim id ≠ Text.trim item) :
    (ofList modes).get? item = none := by
  rw [get?_ofList]
  by_contra hfound
  obtain ⟨⟨id, m⟩, hmem, hkey⟩ := Store.Table.get?_ofPairs_ne_none_iff.mp hfound
  exact hnone id m hmem hkey

end ItemModes

namespace Broker

open Http

/-! ## Paths of items -/

theorem Route.ofPath?_access {spelled : String} (hne : spelled ≠ "")
    (hslash : '/' ∉ spelled.toList) : ofPath? ("/access/" ++ spelled) = some (.access spelled) := by
  have hfixed : ∀ path : String, "/access/".toList.take 2 ≠ path.toList.take 2 →
      "/access/" ++ spelled ≠ path := by
    rintro _ h rfl
    exact h (by simp)
  have hafter : Text.after? "/access/".toList ("/access/" ++ spelled).toList =
      some spelled.toList := by
    rw [Text.after?_eq_some_iff, String.toList_append]
  rw [ofPath?, if_neg (hfixed _ (by decide)), if_neg (hfixed _ (by decide)),
    if_neg (hfixed _ (by decide)), if_neg (hfixed _ (by decide)), hafter]
  cases hlist : spelled.toList with
  | nil => exact absurd (String.toList_eq_nil_iff.mp hlist) hne
  | cons c rest =>
    rw [hlist] at hslash
    have hspelled : String.ofList (c :: rest) = spelled := by rw [← hlist, String.ofList_toList]
    simp only [if_neg hslash, hspelled]

theorem path_of_ofText_access {item : String} {t : Target}
    (h : Target.ofText ("/access/" ++ Target.segment item) = .ok t) :
    t.path = "/access/" ++ Target.segment item := by
  have hdir : ∀ c ∈ "/access/".toList, Target.inPath c = true ∧ c ≠ '?' ∧ c ≠ '#' :=
    Text.forall_mem_of_all (by decide)
  rw [Target.ofText_segment rfl hdir] at h
  split at h
  · cases h
  · cases h
    rfl

/-- A request for an item asks for the text that was put in its path. -/
theorem respond_item (b : Broker) (initial : Cipher.Aes.Block) (today : Date) {r : Request}
    (hmethod : r.method = "GET") {item : String} (hitem : item ≠ "")
    (htarget : Target.ofText ("/access/" ++ Target.segment item) = .ok r.target) :
    b.respond initial today r = b.itemResponse item := by
  have hne : Target.segment item ≠ "" := by
    intro h
    exact Target.segmentChars_ne_nil hitem (String.ofList_eq_empty_iff.mp h)
  have hslash : '/' ∉ (Target.segment item).toList := by
    rw [Target.segment, String.toList_ofList]
    intro h
    exact (Target.inPath_of_mem h).2 List.mem_cons_self
  have hroute : Route.ofPath? r.target.path = some (.access (Target.segment item)) := by
    rw [path_of_ofText_access htarget, Route.ofPath?_access hne hslash]
  rw [respond_get hmethod hroute, routeResponse, accessResponse, Target.decode?_segment]

/-! ## Answers -/

/-- An answer with a status and a value in JSON that is read back from it. -/
structure Answers (resp : Response) (status : Nat) (j : Json) : Prop where
  status : resp.status = status
  type : ("content-type", "application/json") ∈ resp.headers
  body : Json.read? resp.body = some j

/-- What is written flat is read back. -/
theorem answers_json (status : Nat) {j : Json} (hexact : j.IsExact)
    (hflat : (j.tree Json.escapeChar).depth = 1) : Answers (.json status j) status j := by
  have hdepth : (j.tree Json.escapeChar).depth ≤ Json.maxDepth := by
    rw [hflat]
    decide
  refine ⟨rfl, by simp [Response.json, Response.withBody, ContentType.text], ?_⟩
  exact Json.read?_write hexact hdepth

/-! ## Modes told and not told -/

/-- **The mode of an item in the answer to its name.** For every broker that is made of a
configuration which gives modes to items whose names differ by more than blanks around them, and
every text that is not empty: a request with this text as a segment behind `/access/` is answered
with the mode of the item that has this name, up to blanks around both, if there is one; otherwise
with the fault that it is not found, and the text as it was asked for in the message. -/
theorem respond_access {c : Config} {env : Environment} {b : Broker} (hb : seeded c env = .ok b)
    (hdistinct : (c.modes.map fun p => Text.trim p.1).Nodup) (initial : Cipher.Aes.Block)
    (today : Date) {r : Request} (hmethod : r.method = "GET") {item : String} (hitem : item ≠ "")
    (htarget : Target.ofText ("/access/" ++ Target.segment item) = .ok r.target) :
    (∀ id m, (id, m) ∈ c.modes → Text.trim id = Text.trim item →
      Answers (b.respond initial today r) 200 (.object [("accessMode", .text m.name)])) ∧
    ((∀ id m, (id, m) ∈ c.modes → Text.trim id ≠ Text.trim item) →
      Answers (b.respond initial today r) 404 (.object [("error", .text "notFound"),
        ("message", .text ("No access mode is recorded for item " ++ item))])) := by
  have hmodes : b.sources.modes item = .value ((ItemModes.ofList c.modes).get? item) := by
    rw [sources_of_seeded hb]
    rfl
  rw [respond_item b initial today hmethod hitem htarget, itemResponse, hmodes]
  constructor
  · intro id m hmem hid
    rw [ItemModes.get?_ofList_of_nodup hdistinct hmem hid]
    exact answers_json 200 (by simp [AccessMode.toJson, Json.IsExact, Json.MembersAreExact]) rfl
  · intro hnone
    rw [ItemModes.get?_ofList_of_ne hnone]
    exact answers_json 404 (by simp [Json.IsExact, Json.MembersAreExact]) rfl

/-- The configuration with the modes of two items. -/
def itemConfig : Config :=
  { sampleConfig with modes := [(" ark:/21198/z1 50%\t", .tiered), ("..", .open)] }

/-- A request for an item as it is spelled. -/
def requestItem (spelled : String) : Request :=
  ⟨"GET", ⟨"/access/" ++ spelled, none⟩, [], .v4 ⟨0x7F000001⟩⟩

/-- A name with slashes, blanks and a percent sign is found, and one with a quote is not. -/
theorem respond_access_sample : (itemConfig.modes.map fun p => Text.trim p.1).Nodup ∧
    ∃ b, seeded itemConfig .empty = .ok b ∧
      Answers (b.respond .zero sampleDay (requestItem "ark%3A%2F21198%2Fz1%2050%25%20")) 200
        (.object [("accessMode", .text "TIERED")]) ∧
      Answers (b.respond .zero sampleDay (requestItem "%2F%22%C3%A9")) 404
        (.object [("error", .text "notFound"),
          ("message", .text "No access mode is recorded for item /\"é")]) := by
  have hdistinct : (itemConfig.modes.map fun p => Text.trim p.1).Nodup := by decide +kernel
  obtain ⟨b, hb⟩ := exists_seeded (c := itemConfig) rfl
  have hfound : Target.ofText ("/access/" ++ Target.segment "ark:/21198/z1 50% ") =
      .ok (requestItem "ark%3A%2F21198%2Fz1%2050%25%20").target := by decide +kernel
  have hmissed : Target.ofText ("/access/" ++ Target.segment "/\"é") =
      .ok (requestItem "%2F%22%C3%A9").target := by decide +kernel
  have hnone : ∀ p ∈ itemConfig.modes, Text.trim p.1 ≠ Text.trim "/\"é" := by decide +kernel
  refine ⟨hdistinct, b, hb, ?_, ?_⟩
  · exact (respond_access hb hdistinct .zero sampleDay rfl (by decide) hfound).1
      " ark:/21198/z1 50%\t" .tiered List.mem_cons_self (by decide +kernel)
  · exact (respond_access hb hdistinct .zero sampleDay rfl (by decide) hmissed).2
      fun id m hmem => hnone (id, m) hmem

end Broker

end AccessBroker
