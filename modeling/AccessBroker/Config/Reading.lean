/-
Reading a configuration out of data.

Every record of settings starts from its default and takes what the data give.
The list of subnets may also be written as one text with commas; either way its
entries are trimmed and blank ones dropped, so both spellings give one list.
-/
import AccessBroker.Config.Basic

namespace AccessBroker

open Datum

/-- Reads a number of 16 bits. -/
def Datum.readPort (d : Datum) : Read UInt16 := (readNat 16 d).map UInt16.ofNat

/-- Reads a number of 64 bits. -/
def Datum.readWord (d : Datum) : Read UInt64 := (readNat 64 d).map UInt64.ofNat

/-- The entries of a list of subnets, trimmed, without the blank ones. -/
def Config.tidy (entries : List String) : List String :=
  (entries.map Text.trim).filter fun s => !s.isEmpty

/-- The texts in a list of nothing else. -/
def Datum.texts? : List Datum → Option (List String)
  | [] => some []
  | .text s :: rest => (texts? rest).map (s :: ·)
  | _ :: _ => none

/-- Reads a list of subnets. -/
def Config.readSubnets : Datum → Read (List String)
  | .text s => .ok (tidy ((Text.splitAll ',' s.toList).map String.ofList))
  | .list elements =>
    match texts? elements with
    | some entries => .ok (tidy entries)
    | none => refuse (.noAlternative "Raw")
  | _ => refuse (.noAlternative "Raw")

/-- The fields of the settings of the server. -/
def ServerConfig.fields : List (Datum.Field ServerConfig) :=
  [.of "host" readText fun s v => { s with host := v },
    .of "port" readPort fun s v => { s with port := v },
    .of "trust_forwarded_for" readBool fun s v => { s with trustForwardedFor := v },
    .of "request_timeout_secs" readWord fun s v => { s with requestTimeout := v }]

/-- The fields of the settings of the cookie. -/
def CookieConfig.fields : List (Datum.Field CookieConfig) :=
  [.of "password" readText fun s v => { s with password := v },
    .of "salt" readText fun s v => { s with salt := v },
    .of "name" readText fun s v => { s with name := v },
    .of "max_age_secs" (readOption readWord) fun s v => { s with maxAge := v },
    .of "secure" readBool fun s v => { s with secure := v },
    .of "window_close_delay_secs" readWord fun s v => { s with windowCloseDelay := v }]

/-- The fields of the settings of external credentials. -/
def ExternalConfig.fields : List (Datum.Field ExternalConfig) :=
  [.of "secret" readText fun s v => { s with secret := v },
    .of "valid_prefix" readText fun s v => { s with word := v },
    .of "date_format" readText fun s v => { s with dateFormat := v },
    .of "ciphertext_cookie" readText fun s v => { s with ciphertextCookie := v },
    .of "iv_cookie" readText fun s v => { s with initialCookie := v }]

namespace Config

/-- A field that is a record of one field with a default. -/
def only {α : Type} (dialect : Dialect) (name key : String) (read : Datum → Read α) (start : α)
    (d : Datum) : Read α :=
  readRecord dialect name [.of key read fun _ v => v] start d

/-- The fields of a configuration. -/
def fields (dialect : Dialect) : List (Datum.Field Config) :=
  [.of "version" readText fun c v => { c with version := v },
    .of "server" (readRecord dialect "ServerConfig" ServerConfig.fields default.server)
      fun c v => { c with server := v },
    .of "cookie" (readRecord dialect "CookieConfig" CookieConfig.fields default.cookie)
      fun c v => { c with cookie := v },
    .of "external" (readRecord dialect "ExternalConfig" ExternalConfig.fields default.external)
      fun c v => { c with external := v },
    .of "campus_network"
      (only dialect "CampusNetworkConfig" "subnets" readSubnets default.subnets)
      fun c v => { c with subnets := v },
    .of "token" (only dialect "TokenConfig" "expires_in" (readOption readWord) default.expiresIn)
      fun c v => { c with expiresIn := v },
    .of "degraded_access"
      (only dialect "DegradedAccessConfig" "origins" (readTable readBool) default.origins)
      fun c v => { c with origins := v },
    .of "items"
      (only dialect "ItemsConfig" "access_modes" (readTable (AccessMode.read dialect)) default.modes)
      fun c v => { c with modes := v }]

/-- Reads a configuration. -/
def read (dialect : Dialect) : Datum → Read Config :=
  readRecord dialect "Config" (fields dialect) default

/-- Reads a configuration in JSON. -/
def ofJson (j : Json) : Except Cause Config := causeOnly (read .json (Datum.ofJson j))

end Config

end AccessBroker
