/-
What the ways to a token come to.

A credential that is not there is missing. One that is there and good gives the
token for it, and one that is there and no good is invalid (`Sorts`); since
opening and checking blame no one but the client, no way ever ends with the
service being out of order. `refusals_of_make` says so of every cipher and every
validator that could be made, for all that a client may send.
-/
import AccessBroker.Proofs.Credential.AccessCookie
import AccessBroker.Proofs.Credential.External
import AccessBroker.Proofs.Credential.Stages
import AccessBroker.Token.Flow

namespace AccessBroker

/-- What a way to a token comes to, by whether a credential is there and which tokens it is good
for. -/
structure Sorts (outcome : Except TokenFault AccessToken) (present : Prop)
    (good : AccessToken → Prop) : Prop where
  missing_iff : outcome = .error .missingCredentials ↔ ¬ present
  ok_iff : ∀ token, outcome = .ok token ↔ good token
  invalid_iff : outcome = .error .invalidCredentials ↔ present ∧ ∀ token, ¬ good token
  ne_unavailable : outcome ≠ .error .unavailable

namespace Sorts

variable {present : Prop} {good : AccessToken → Prop}

theorem missing (hpresent : ¬ present) (hgood : ∀ token, good token → present) :
    Sorts (.error .missingCredentials) present good where
  missing_iff := ⟨fun _ => hpresent, fun _ => rfl⟩
  ok_iff token := ⟨fun h => (by cases h), fun h => absurd (hgood token h) hpresent⟩
  invalid_iff := ⟨fun h => (by cases h), fun h => absurd h.1 hpresent⟩
  ne_unavailable h := by cases h

theorem given (hpresent : present) {token : AccessToken}
    (hgood : ∀ token', good token' ↔ token = token') : Sorts (.ok token) present good where
  missing_iff := ⟨fun h => (by cases h), fun h => absurd hpresent h⟩
  ok_iff token' := by rw [hgood, Except.ok.injEq]
  invalid_iff := ⟨fun h => (by cases h), fun h => absurd ((hgood token).mpr rfl) (h.2 token)⟩
  ne_unavailable h := by cases h

theorem invalid (hpresent : present) (hgood : ∀ token, ¬ good token) :
    Sorts (.error .invalidCredentials) present good where
  missing_iff := ⟨fun h => (by cases h), fun h => absurd hpresent h⟩
  ok_iff token := ⟨fun h => (by cases h), fun h => absurd h (hgood token)⟩
  invalid_iff := ⟨fun _ => ⟨hpresent, hgood⟩, fun _ => rfl⟩
  ne_unavailable h := by cases h

end Sorts

/-! ## The two ways -/

/-- The tokens that an access cookie is good for: one for the facts it opens to. -/
def PrimaryFlow.IsGood (f : PrimaryFlow) (jar : Cookie.Jar) (client : Client)
    (token : AccessToken) : Prop :=
  ∃ value cookie, jar.get? f.cookieName = some value ∧
    f.cipher.opened value client.address = .ok cookie ∧
    token = .campus f.cipher.version cookie.campus

/-- The tokens that an external credential is good for: one, if it is current. -/
def ExternalFlow.IsGood (f : ExternalFlow) (jar : Cookie.Jar) (today : Date)
    (token : AccessToken) : Prop :=
  ∃ ciphertext initial, jar.get? f.ciphertextCookie = some ciphertext ∧
    jar.get? f.initialCookie = some initial ∧
    f.validator.check ciphertext initial today = .ok () ∧ token = .affiliate f.version true

theorem PrimaryFlow.sorts (f : PrimaryFlow) (jar : Cookie.Jar) (client : Client) :
    Sorts (f.issue jar client) (jar.get? f.cookieName ≠ none) (f.IsGood jar client) := by
  rw [issue]
  cases hvalue : jar.get? f.cookieName with
  | none =>
    refine .missing (fun h => h rfl) ?_
    rintro token ⟨value, cookie, hvalue', -⟩
    rw [hvalue] at hvalue'
    cases hvalue'
  | some value =>
    have hpresent : some value ≠ none := Option.some_ne_none value
    rcases f.cipher.opened_cases value client.address with ⟨cookie, hopened, -⟩ | hopened
    · simp only [hopened]
      refine .given hpresent fun token => ?_
      constructor
      · rintro ⟨value', cookie', hvalue', hopened', rfl⟩
        rw [hvalue] at hvalue'
        cases hvalue'
        rw [hopened] at hopened'
        cases hopened'
        rfl
      · rintro rfl
        exact ⟨value, cookie, hvalue, hopened, rfl⟩
    · simp only [hopened]
      refine .invalid hpresent ?_
      rintro token ⟨value', cookie', hvalue', hopened', -⟩
      rw [hvalue] at hvalue'
      cases hvalue'
      rw [hopened] at hopened'
      cases hopened'

theorem ExternalFlow.sorts (f : ExternalFlow) (jar : Cookie.Jar) (today : Date) :
    Sorts (f.issue jar today)
      (jar.get? f.ciphertextCookie ≠ none ∧ jar.get? f.initialCookie ≠ none)
      (f.IsGood jar today) := by
  rw [issue]
  split
  · next ciphertext initial hciphertext hinitial =>
    have hpresent : jar.get? f.ciphertextCookie ≠ none ∧ jar.get? f.initialCookie ≠ none := by
      rw [hciphertext, hinitial]
      exact ⟨Option.some_ne_none _, Option.some_ne_none _⟩
    rcases f.validator.check_cases ciphertext initial today with hcheck | hcheck
    · simp only [hcheck]
      refine .given hpresent fun token => ?_
      constructor
      · rintro ⟨-, -, -, -, -, rfl⟩
        rfl
      · rintro rfl
        exact ⟨ciphertext, initial, hciphertext, hinitial, hcheck, rfl⟩
    · simp only [hcheck]
      refine .invalid hpresent ?_
      rintro token ⟨ciphertext', initial', hciphertext', hinitial', hcheck', -⟩
      rw [hciphertext] at hciphertext'
      rw [hinitial] at hinitial'
      cases hciphertext'
      cases hinitial'
      rw [hcheck] at hcheck'
      cases hcheck'
  · next hnot =>
    refine .missing ?_ ?_
    · rintro ⟨hciphertext, hinitial⟩
      obtain ⟨ciphertext, hciphertext⟩ := Option.ne_none_iff_exists'.mp hciphertext
      obtain ⟨initial, hinitial⟩ := Option.ne_none_iff_exists'.mp hinitial
      exact hnot ciphertext initial hciphertext hinitial
    · rintro token ⟨ciphertext, initial, hciphertext, hinitial, -⟩
      exact (hnot ciphertext initial hciphertext hinitial).elim

/-! ## Every cipher and every validator -/

/-- **No client puts the service out of order.** A cipher that could be made opens every text as the
stages do under its key, for the presenter that the facts name, or else blames the client; so does
a validator that could be made with every pair of texts on every day. Whatever is in the jar, the
ways to a token therefore sort it by whether a credential is there and what it is good for. -/
theorem refusals_of_make {password salt version : String} {c : CookieCipher}
    (hc : CookieCipher.make password salt version = .ok c) {secret : List UInt8}
    {word format : String} {v : External.Validator}
    (hv : External.Validator.make secret word format = .ok v) :
    (∀ value presenter,
      c.opened value presenter =
          (CookieCipher.openedUnder (Cipher.KeyDerivation.derive (Text.Utf8.encode password)
            (Text.Utf8.encode salt)) value presenter).mapError Stage.fault ∧
        ((∃ cookie, c.opened value presenter = .ok cookie ∧
            cookie.address = presenter.canonicalText) ∨
          c.opened value presenter = .error .invalid)) ∧
    (∀ ciphertext initial today,
      v.check ciphertext initial today =
          (External.Validator.checkedUnder secret word format ciphertext initial today).mapError
            Stage.fault ∧
        (v.check ciphertext initial today = .ok () ∨
          v.check ciphertext initial today = .error .invalid)) ∧
    (∀ (name : String) (jar : Cookie.Jar) (client : Client) (today : Date),
      Sorts ((PrimaryFlow.mk c name).flow.issue jar client today) (jar.get? name ≠ none)
        fun token => ∃ value cookie, jar.get? name = some value ∧
          c.opened value client.address = .ok cookie ∧ token = .campus version cookie.campus) ∧
    ∀ (ciphertextName initialName told : String) (jar : Cookie.Jar) (client : Client)
      (today : Date),
      Sorts ((ExternalFlow.mk v ciphertextName initialName told).flow.issue jar client today)
        (jar.get? ciphertextName ≠ none ∧ jar.get? initialName ≠ none)
        fun token => ∃ ciphertext initial, jar.get? ciphertextName = some ciphertext ∧
          jar.get? initialName = some initial ∧ v.check ciphertext initial today = .ok () ∧
          token = .affiliate told true := by
  obtain ⟨hkey, rfl, rfl⟩ := External.Validator.of_make hv
  obtain rfl := CookieCipher.version_of_make hc
  refine ⟨?_, ?_, ?_, ?_⟩
  · intro value presenter
    exact ⟨CookieCipher.opened_eq (CookieCipher.ofKey?_of_make hc) value presenter,
      c.opened_cases value presenter⟩
  · intro ciphertext initial today
    exact ⟨External.Validator.check_eq hkey ciphertext initial today,
      v.check_cases ciphertext initial today⟩
  · intro name jar client today
    exact PrimaryFlow.sorts ⟨c, name⟩ jar client
  · intro ciphertextName initialName told jar client today
    exact ExternalFlow.sorts ⟨v, ciphertextName, initialName, told⟩ jar today

/-- Without cookies nothing was presented; a cookie that is no envelope is the client's fault, and
so is an external credential that is not spelled in hexadecimal. -/
theorem refusals_of_make_broken : ∃ c v,
    CookieCipher.make "password" "salt" "1.0" = .ok c ∧
    External.Validator.make External.sampleSecret "Authenticated" "%Y-%m-%d" = .ok v ∧
    ∀ (client : Client) (today : Date),
      (PrimaryFlow.mk c "access").flow.issue .empty client today = .error .missingCredentials ∧
      (PrimaryFlow.mk c "access").flow.issue (.ofPairs id [("access", "%")]) client today =
        .error .invalidCredentials ∧
      (ExternalFlow.mk v "secret" "first" "1.0").flow.issue (.ofPairs id [("secret", "00")])
        client today = .error .missingCredentials ∧
      (ExternalFlow.mk v "secret" "first" "1.0").flow.issue
        (.ofPairs id [("secret", "00"), ("first", "x")]) client today =
          .error .invalidCredentials := by
  obtain ⟨key, -, hmake⟩ := CookieCipher.make_eq_ok (show "password" ≠ "" by decide)
    (show "salt" ≠ "" by decide)
  have hsecret : External.sampleSecret.length = 32 := by decide +kernel
  obtain ⟨other, -, hvalidator⟩ := External.Validator.make_eq_ok (.inr (.inr hsecret))
  have hc := hmake "1.0"
  have hv := hvalidator "Authenticated" "%Y-%m-%d"
  obtain ⟨hopened, hchecked, hprimary, hexternal⟩ := refusals_of_make hc hv
  refine ⟨_, _, hc, hv, fun client today => ⟨?_, ?_, ?_, ?_⟩⟩
  · exact (hprimary "access" .empty client today).missing_iff.mpr fun h => h rfl
  · refine (hprimary "access" _ client today).invalid_iff.mpr ⟨by decide, ?_⟩
    rintro token ⟨value, cookie, hvalue, hok, -⟩
    obtain rfl : "%" = value := Option.some.inj hvalue
    rw [(hopened "%" client.address).1] at hok
    cases hok
  · exact (hexternal "secret" "first" "1.0" _ client today).missing_iff.mpr fun h => h.2 rfl
  · refine (hexternal "secret" "first" "1.0" _ client today).invalid_iff.mpr ⟨by decide, ?_⟩
    rintro token ⟨ciphertext, initial, hciphertext, hinitial, hok, -⟩
    obtain rfl : "00" = ciphertext := Option.some.inj hciphertext
    obtain rfl : "x" = initial := Option.some.inj hinitial
    rw [(hchecked "00" "x" today).1] at hok
    cases hok

end AccessBroker
