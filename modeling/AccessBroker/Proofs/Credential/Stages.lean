/-
Credentials looked at stage by stage.

A cookie is opened, and an external credential checked, in stages, of which the
first that fails ends it. Every stage but one looks at what the client sent, and
to fail there is the client's fault. The one that is not makes a key of the bytes
of a secret (`Stage.fault`).

`openedUnder` and `checkedUnder` are these stages under any bytes whatever. A
cipher and a validator hold a key that was made when they were, so they come to
what the stages come to under its bytes (`opened_eq`, `check_eq`), and the stage
of the key is never where it ends (`Sifts`).
-/
import AccessBroker.Credential.AccessCookie
import AccessBroker.Credential.External

namespace AccessBroker

open Cipher.Aes (Schedule)

/-- Where a credential may be refused. -/
inductive Stage where
  | envelopeEncoding
  | envelopeForm
  | secretEncoding
  | initialEncoding
  | initialLength
  | key
  | padding
  | factsForm
  | presenter
  | plainEncoding
  | separator
  | word
  | date
  | deadline
  | expiry
  deriving DecidableEq

namespace Stage

/-- Whose fault it is. -/
def fault : Stage → CredentialFault
  | key => .misconfigured
  | _ => .invalid

/-- What a stage comes to. -/
def take {α : Type} (s : Stage) : Option α → Except Stage α
  | some a => .ok a
  | none => .error s

end Stage

/-! ## The stages -/

/-- Opens a sealed cookie under the bytes of a key. -/
def CookieCipher.openedUnder (key : List UInt8) (value : String) (presenter : Address) :
    Except Stage AccessCookie := do
  let raw ← Stage.envelopeEncoding.take (Encoding.Base64.decode? (Text.trim value))
  let e ← Stage.envelopeForm.take (Envelope.ofBytes? raw)
  let secret ← Stage.secretEncoding.take (Encoding.Base64.decode? e.secret)
  let nonce ← Stage.initialEncoding.take (Encoding.Base64.decode? e.nonce)
  let initial ← Stage.initialLength.take (Cipher.initial? nonce)
  let schedule ← Stage.key.take (Schedule.ofKey? key)
  let plain ← Stage.padding.take (Cipher.decrypt? schedule initial secret)
  let cookie ← Stage.factsForm.take (AccessCookie.ofBytes? plain)
  Stage.presenter.take (if cookie.address = presenter.canonicalText then some cookie else none)

/-- Checks an external credential under the bytes of a secret. -/
def External.Validator.checkedUnder (secret : List UInt8) (word format ciphertext initial : String)
    (today : Date) : Except Stage Unit := do
  let bytes ← Stage.secretEncoding.take (Encoding.Hex.decode? (Text.trim ciphertext))
  let block ← Stage.initialEncoding.take (Encoding.Hex.decode? (Text.trim initial))
  let block ← Stage.initialLength.take (Cipher.initial? block)
  let schedule ← Stage.key.take (Schedule.ofKey? secret)
  let plain ← Stage.padding.take (Cipher.decrypt? schedule block bytes)
  let text ← Stage.plainEncoding.take (Text.Utf8.decodeChars? plain)
  let parts ← Stage.separator.take (Text.splitFirst? ' ' text)
  let date ← Stage.word.take (if String.ofList parts.1 = word then some parts.2 else none)
  let issued ← Stage.date.take (Date.read? format (String.ofList date))
  let deadline ← Stage.deadline.take (issued.plusDays? validityDays)
  Stage.expiry.take (if today ≤ deadline then some () else none)

/-! ## Whose fault it is -/

/-- Stages come to a result if there is one, and else to the fault of the client. -/
structure Sifts {α : Type} (x : Except Stage α) (o : Option α) : Prop where
  toOption_eq : x.toOption = o
  fault_eq : ∀ s, x = .error s → s.fault = .invalid

namespace Sifts

variable {α β : Type} {x : Except Stage α} {o : Option α}

theorem take {s : Stage} (hs : s.fault = .invalid) (o : Option α) : Sifts (s.take o) o := by
  cases o with
  | none =>
    refine ⟨rfl, fun s' hs' => ?_⟩
    cases hs'
    exact hs
  | some a => exact ⟨rfl, fun _ h => by cases h⟩

/-- The stage of the key, under bytes that make one. -/
theorem take_some (s : Stage) (a : α) : Sifts (s.take (some a)) (some a) :=
  ⟨rfl, fun _ h => by cases h⟩

theorem bind (hx : Sifts x o) {f : α → Except Stage β} {g : α → Option β}
    (hf : ∀ a, Sifts (f a) (g a)) : Sifts (x >>= f) (o.bind g) := by
  obtain ⟨rfl, hfault⟩ := hx
  cases x with
  | error s => exact ⟨rfl, fun s' hs' => hfault s' (by cases hs'; rfl)⟩
  | ok a => exact hf a

/-- What the client is told. -/
theorem mapError_eq (h : Sifts x o) :
    x.mapError Stage.fault = o.elim (.error .invalid) .ok := by
  obtain ⟨rfl, hfault⟩ := h
  cases x with
  | error s => exact congrArg Except.error (hfault s rfl)
  | ok a => rfl

end Sifts

namespace CookieCipher

theorem sifts_openedUnder {c : CookieCipher} {key : List UInt8}
    (hkey : Schedule.ofKey? key = some c.key) (value : String) (presenter : Address) :
    Sifts (openedUnder key value presenter) ((c.unseal? value).bind fun cookie =>
      if cookie.address = presenter.canonicalText then some cookie else none) := by
  simp only [unseal?, openEnvelope?, Option.bind_eq_bind, Option.bind_assoc]
  refine (Sifts.take rfl _).bind fun raw => (Sifts.take rfl _).bind fun e =>
    (Sifts.take rfl _).bind fun secret => (Sifts.take rfl _).bind fun nonce =>
      (Sifts.take rfl _).bind fun initial => ?_
  rw [hkey]
  exact (Sifts.take_some _ c.key).bind fun _ => (Sifts.take rfl _).bind fun plain =>
    (Sifts.take rfl _).bind fun cookie => Sifts.take rfl _

/-- A cipher opens what the stages open under the bytes of its key. -/
theorem opened_eq {c : CookieCipher} {key : List UInt8} (hkey : Schedule.ofKey? key = some c.key)
    (value : String) (presenter : Address) :
    c.opened value presenter = (openedUnder key value presenter).mapError Stage.fault := by
  rw [(sifts_openedUnder hkey value presenter).mapError_eq, opened]
  cases c.unseal? value with
  | none => rfl
  | some cookie =>
    by_cases haddress : cookie.address = presenter.canonicalText
    · simp [haddress]
    · simp [haddress]

/-- What is opened was made for the presenter, and what is not is the client's fault. -/
theorem opened_cases (c : CookieCipher) (value : String) (presenter : Address) :
    (∃ cookie, c.opened value presenter = .ok cookie ∧
      cookie.address = presenter.canonicalText) ∨
    c.opened value presenter = .error .invalid := by
  rw [opened]
  split
  · next cookie _ =>
    split
    · next haddress => exact .inl ⟨cookie, rfl, haddress⟩
    · exact .inr rfl
  · exact .inr rfl

theorem ofKey?_of_make {password salt version : String} {c : CookieCipher}
    (h : make password salt version = .ok c) :
    Schedule.ofKey? (Cipher.KeyDerivation.derive (Text.Utf8.encode password)
      (Text.Utf8.encode salt)) = some c.key := by
  rw [make] at h
  split at h
  · cases h
  · split at h
    · next key hkey =>
      cases h
      exact hkey
    · cases h

end CookieCipher

namespace External.Validator

/-- A date is current in two stages: the last day is found, and not gone by. -/
theorem bind_isCurrent (issued today : Date) :
    (if isCurrent issued today = true then some () else none) =
      (issued.plusDays? validityDays).bind fun deadline =>
        if today ≤ deadline then some () else none := by
  rw [isCurrent]
  cases issued.plusDays? validityDays with
  | none => rfl
  | some deadline => simp

theorem sifts_checkedUnder {v : Validator} {secret : List UInt8}
    (hkey : Schedule.ofKey? secret = some v.key) (ciphertext initial : String) (today : Date) :
    Sifts (checkedUnder secret v.word v.format ciphertext initial today)
      (((v.plain? ciphertext initial).bind v.issued?).bind fun issued =>
        if isCurrent issued today then some () else none) := by
  simp only [plain?, issued?, Option.bind_eq_bind, Option.bind_assoc]
  refine (Sifts.take rfl _).bind fun bytes => (Sifts.take rfl _).bind fun block =>
    (Sifts.take rfl _).bind fun first => ?_
  rw [hkey]
  refine (Sifts.take_some _ v.key).bind fun _ => (Sifts.take rfl _).bind fun plain =>
    (Sifts.take rfl _).bind fun text => (Sifts.take rfl _).bind fun parts => ?_
  have hword : (if String.ofList parts.1 = v.word then
        Date.read? v.format (String.ofList parts.2) else none) =
      (if String.ofList parts.1 = v.word then some parts.2 else none).bind fun date =>
        Date.read? v.format (String.ofList date) := by
    split <;> rfl
  simp only [hword, bind_isCurrent, Option.bind_assoc]
  exact (Sifts.take rfl _).bind fun date => (Sifts.take rfl _).bind fun issued =>
    (Sifts.take rfl _).bind fun deadline => Sifts.take rfl _

/-- A validator checks what the stages check under the bytes of its secret. -/
theorem check_eq {v : Validator} {secret : List UInt8}
    (hkey : Schedule.ofKey? secret = some v.key) (ciphertext initial : String) (today : Date) :
    v.check ciphertext initial today =
      (checkedUnder secret v.word v.format ciphertext initial today).mapError Stage.fault := by
  rw [(sifts_checkedUnder hkey ciphertext initial today).mapError_eq, check]
  cases (v.plain? ciphertext initial).bind v.issued? with
  | none => rfl
  | some issued =>
    by_cases hcurrent : isCurrent issued today = true
    · simp [hcurrent]
    · simp [hcurrent]

theorem check_cases (v : Validator) (ciphertext initial : String) (today : Date) :
    v.check ciphertext initial today = .ok () ∨
      v.check ciphertext initial today = .error .invalid := by
  rw [check]
  split
  · split
    · exact .inl rfl
    · exact .inr rfl
  · exact .inr rfl

theorem of_make {secret : List UInt8} {word format : String} {v : Validator}
    (h : make secret word format = .ok v) :
    Schedule.ofKey? secret = some v.key ∧ v.word = word ∧ v.format = format := by
  rw [make] at h
  split at h
  · next key hkey =>
    cases h
    exact ⟨hkey, rfl, rfl⟩
  · cases h

end External.Validator

end AccessBroker
