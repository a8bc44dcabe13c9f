/-
Tokens read back from their text.

The two kinds of token name their flag differently, so each is read as what it
was written from (`ofJson?_toJson`), and so is its text (`decode?_encode`). What
follows of the texts of different tokens is said in `encode_tells`.
-/
import AccessBroker.Proofs.Encoding.Base64
import AccessBroker.Proofs.Json.Tree
import AccessBroker.Token.Basic

namespace AccessBroker.AccessToken

theorem isExact_toJson (t : AccessToken) : t.toJson.IsExact := by
  cases t <;> simp [toJson, Json.IsExact, Json.MembersAreExact]

theorem depth_toJson (g : Char → List Char) (t : AccessToken) : (t.toJson.tree g).depth = 1 := by
  cases t <;> rfl

theorem ofJson?_toJson (t : AccessToken) : ofJson? t.toJson = some t := by
  cases t with
  | campus version flag => rfl
  | affiliate version flag => rfl

/-- The text of a token is its JSON, in bytes and in base 64. -/
theorem json_of_encode (t : AccessToken) :
    (Encoding.Base64.decode? t.encode).bind Json.ofBytes? = some t.toJson := by
  have hread : Json.ofBytes? (Text.Utf8.encode t.toJson.write) = some t.toJson :=
    Json.read?_write (isExact_toJson t) (by rw [depth_toJson]; decide)
  rw [encode, Encoding.Base64.decode?_encode, Option.bind_some, hread]

theorem decode?_eq (s : String) :
    decode? s = ((Encoding.Base64.decode? s).bind Json.ofBytes?).bind ofJson? := by
  rw [decode?, Option.bind_assoc]
  rfl

/-- A token is read back from its text. -/
theorem decode?_encode (t : AccessToken) : decode? t.encode = some t := by
  rw [decode?_eq, json_of_encode, Option.bind_some, ofJson?_toJson]

theorem encode_injective {t t' : AccessToken} (h : t.encode = t'.encode) : t = t' :=
  Option.some.inj (by rw [← decode?_encode t, h, decode?_encode])

/-- **The text of a token says which token it is.** It is the JSON of the token, it is read back as
that token, no other token has it, and what one kind has is never read as the other kind. -/
theorem encode_tells (t : AccessToken) :
    (Encoding.Base64.decode? t.encode).bind Json.ofBytes? = some t.toJson ∧
      decode? t.encode = some t ∧
      (∀ t' : AccessToken, t'.encode = t.encode ↔ t' = t) ∧
      ∀ (version version' : String) (flag flag' : Bool),
        decode? (campus version flag).encode ≠ some (affiliate version' flag') ∧
          decode? (affiliate version flag).encode ≠ some (campus version' flag') := by
  refine ⟨json_of_encode t, decode?_encode t, fun t' => ⟨encode_injective, congrArg encode⟩, ?_⟩
  intro version version' flag flag'
  rw [decode?_encode, decode?_encode]
  constructor
  · rintro ⟨⟩
  · rintro ⟨⟩

end AccessBroker.AccessToken
