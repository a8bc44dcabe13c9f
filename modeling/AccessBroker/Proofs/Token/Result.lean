/-
Results read back from their text.

A success has an access token and a failure none, so the two are not taken for
each other (`ofJson?_toJson`); with that the text of a result gives the result
again (`read?_write`). Results have other spellings as well, and each is written
again as the text of the result that it is read as (`read_write_read`).
-/
import AccessBroker.Proofs.Json.Tree
import AccessBroker.Token.Result

namespace AccessBroker

theorem TokenFault.ofJson_name (e : TokenFault) : ofJson (.text e.name) = .ok e := by
  cases e <;> rfl

namespace TokenResult

theorem isExact_toJson (r : TokenResult) : r.toJson.IsExact := by
  obtain ⟨token, expiresIn, messageId⟩ | ⟨error, message, messageId⟩ := r
  · cases expiresIn <;> cases messageId <;>
      simp [toJson, optional, Json.IsExact, Json.MembersAreExact, Json.isExact_ofWord]
  · cases messageId <;> simp [toJson, optional, Json.IsExact, Json.MembersAreExact]

theorem depth_toJson (g : Char → List Char) (r : TokenResult) : (r.toJson.tree g).depth = 1 := by
  obtain ⟨token, expiresIn, messageId⟩ | ⟨error, message, messageId⟩ := r
  · cases expiresIn <;> cases messageId <;> rfl
  · cases messageId <;> rfl

theorem optionalWord?_word (n : Option UInt64) : optionalWord? (n.map Json.ofWord) = some n := by
  cases n with
  | none => rfl
  | some n =>
    have hn : n.toNat < Nat.pow 2 64 := n.toNat_lt
    change (if n.toNat < Nat.pow 2 64 then some (some (UInt64.ofNat n.toNat)) else none) = _
    rw [if_pos hn, UInt64.ofNat_toNat]

theorem optionalText?_text (s : Option String) : optionalText? (s.map .text) = some s := by
  cases s <;> rfl

theorem success?_toJson (s : TokenSuccess) : success? (success s).toJson = some s := by
  obtain ⟨token, expiresIn, messageId⟩ := s
  have hfields : Json.Record.ofJson? ["accessToken", "expiresIn", "messageId"]
      (success ⟨token, expiresIn, messageId⟩).toJson =
      some [some (.text token), expiresIn.map Json.ofWord, messageId.map .text] := by
    cases expiresIn <;> cases messageId <;> rfl
  simp only [success?, hfields, Option.bind_eq_bind, Option.bind_some, optionalWord?_word,
    optionalText?_text]

theorem failure?_toJson (f : TokenFailure) : failure? (failure f).toJson = some f := by
  obtain ⟨error, message, messageId⟩ := f
  have hfields : Json.Record.ofJson? ["error", "message", "messageId"]
      (failure ⟨error, message, messageId⟩).toJson =
      some [some (.text error.name), some (.text message), messageId.map .text] := by
    cases messageId <;> rfl
  simp only [failure?, hfields, Option.bind_eq_bind, Option.bind_some, TokenFault.ofJson_name,
    optionalText?_text]
  rfl

/-- A failure has no access token. -/
theorem success?_failure (f : TokenFailure) : success? (failure f).toJson = none := by
  obtain ⟨error, message, messageId⟩ := f
  cases messageId <;> rfl

theorem ofJson?_toJson (r : TokenResult) : ofJson? r.toJson = some r := by
  cases r with
  | success s => rw [ofJson?, success?_toJson]
  | failure f => rw [ofJson?, success?_failure, failure?_toJson, Option.map_some]

/-- The text of a result is JSON. -/
theorem json_write (r : TokenResult) : Json.read? r.write = some r.toJson :=
  Json.read?_write (isExact_toJson r) (by rw [depth_toJson]; decide)

/-- A result is read back from its text. -/
theorem read?_write (r : TokenResult) : read? r.write = some r := by
  rw [read?, json_write, Option.bind_some, ofJson?_toJson]

/-- Results that are written alike are alike. -/
theorem write_injective {r r' : TokenResult} (h : r.write = r'.write) : r = r' := by
  have hread := read?_write r
  rw [h, read?_write] at hread
  exact (Option.some.inj hread).symm

/-- **A result is read back from its text, which is JSON, and a text that is read keeps its meaning
when it is written again.** So no failure is ever taken for a success, nor a success for a failure. -/
theorem read_write_read :
    (∀ r : TokenResult, Json.read? r.write = some r.toJson ∧ read? r.write = some r) ∧
    (∀ s again, (read? s).map write = some again →
      read? again = read? s ∧ (read? again).map write = some again) ∧
    ∀ given refused, (success given).write ≠ (failure refused).write := by
  refine ⟨fun r => ⟨json_write r, read?_write r⟩, ?_, ?_⟩
  · intro s again h
    obtain ⟨r, hr, rfl⟩ := Option.map_eq_some_iff.mp h
    rw [read?_write, hr]
    exact ⟨rfl, rfl⟩
  · intro given refused h
    cases write_injective h

/-- A success as an array, with the greatest lifetime and without a number. -/
def arraySpelling : String := "[\"t\", 18446744073709551615, null]"

/-- A success as an object that has an error too. -/
def objectSpelling : String :=
  "\x7b\"error\":\"internal\",\"message\":\"m\",\"accessToken\":\"t\",\"messageId\":null\x7d"

/-- An array and an object with more in it are each written again as an object that is read back to
the same result. -/
theorem read_write_read_other_forms :
    ((read? arraySpelling).map write =
        some "\x7b\"accessToken\":\"t\",\"expiresIn\":18446744073709551615\x7d" ∧
      read? "\x7b\"accessToken\":\"t\",\"expiresIn\":18446744073709551615\x7d" =
        read? arraySpelling) ∧
    (read? objectSpelling).map write = some "\x7b\"accessToken\":\"t\"\x7d" ∧
      read? "\x7b\"accessToken\":\"t\"\x7d" = read? objectSpelling := by
  have harray : (read? arraySpelling).map write =
      some "\x7b\"accessToken\":\"t\",\"expiresIn\":18446744073709551615\x7d" := by
    decide +kernel
  have hobject : (read? objectSpelling).map write = some "\x7b\"accessToken\":\"t\"\x7d" := by
    decide +kernel
  obtain ⟨-, hagain, -⟩ := read_write_read
  exact ⟨⟨harray, (hagain _ _ harray).1⟩, hobject, (hagain _ _ hobject).1⟩

end TokenResult

end AccessBroker
