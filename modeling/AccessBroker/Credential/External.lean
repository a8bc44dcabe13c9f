/-
Credentials of the external application.

Such a credential is a pair of hexadecimal texts: a word and a date, encrypted
under a secret that both sides know, and the initial block of the encryption.
It is good while no more than three days have gone by since the date, in any
year of which there are dates. `Validator.check` says nothing of what is wrong
with a bad one.
-/
import AccessBroker.Calendar.Reading
import AccessBroker.Cipher.Chaining
import AccessBroker.Credential.Fault
import AccessBroker.Encoding.Hex
import AccessBroker.Text.Blank
import AccessBroker.Text.Debug
import AccessBroker.Text.Utf8

namespace AccessBroker.External

/-- How many days a credential is good for after its date. -/
def validityDays : Nat := 3

/-- What credentials are held against: the secret they are encrypted under, the word they begin
with, and the format of their date. -/
structure Validator where
  key : Cipher.Aes.Schedule
  word : String
  format : String

namespace Validator

/-- A validator, if the secret has the length of a key. -/
def make (secret : List UInt8) (word format : String) : Except CredentialFault Validator :=
  match Cipher.Aes.Schedule.ofKey? secret with
  | some key => .ok ⟨key, word, format⟩
  | none => .error .misconfigured

/-- What may be shown of a validator: everything but its key. -/
def debug (v : Validator) : String :=
  "ExternalCredentialValidator \x7b expected_prefix: " ++ Text.debug v.word ++
    ", date_format: " ++ Text.debug v.format ++ ", .. \x7d"

/-- The date in a decrypted credential that begins with the word and a space. -/
def issued? (v : Validator) (plain : List UInt8) : Option Date := do
  let text ← Text.Utf8.decodeChars? plain
  let (word, date) ← Text.splitFirst? ' ' text
  if String.ofList word = v.word then Date.read? v.format (String.ofList date) else none

/-- Whether a credential issued on a date is still good on another. -/
def isCurrent (issued today : Date) : Bool :=
  match issued.plusDays? validityDays with
  | some deadline => today ≤ deadline
  | none => false

/-- The bytes that a pair of hexadecimal texts decrypts to. -/
def plain? (v : Validator) (ciphertext initial : String) : Option (List UInt8) := do
  let bytes ← Encoding.Hex.decode? (Text.trim ciphertext)
  let block ← Encoding.Hex.decode? (Text.trim initial)
  let block ← Cipher.initial? block
  Cipher.decrypt? v.key block bytes

/-- Holds a credential against the validator on a given day. -/
def check (v : Validator) (ciphertext initial : String) (today : Date) :
    Except CredentialFault Unit :=
  match (v.plain? ciphertext initial).bind v.issued? with
  | some issued => if isCurrent issued today then .ok () else .error .invalid
  | none => .error .invalid

end Validator

end AccessBroker.External
