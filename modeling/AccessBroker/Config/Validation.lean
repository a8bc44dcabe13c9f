/-
What a configuration must hold before the service starts.

The port is not zero, the version and every secret, name and format shows a
character, and the word of external credentials holds no space, since a space
ends it. `Config.fault?` names the first setting that is no good.
-/
import AccessBroker.Config.Basic

namespace AccessBroker

/-- What is wrong with a setting. -/
inductive SettingFault where
  | zeroPort
  | blankVersion
  /-- The setting with the name is blank. -/
  | blank (name : String)
  | spacedWord
  deriving DecidableEq

namespace SettingFault

/-- The sentence that names the setting. -/
def message : SettingFault → String
  | zeroPort => "server.port must not be 0"
  | blankVersion => "version must not be empty"
  | blank name => name ++ " is required"
  | spacedWord => "external.valid_prefix must not contain spaces"

end SettingFault

namespace Config

/-- The settings that may not be blank, by name. -/
def required (c : Config) : List (String × String) :=
  [("cookie.password", c.cookie.password), ("cookie.salt", c.cookie.salt),
    ("cookie.name", c.cookie.name), ("external.secret", c.external.secret),
    ("external.valid_prefix", c.external.word), ("external.date_format", c.external.dateFormat),
    ("external.ciphertext_cookie", c.external.ciphertextCookie),
    ("external.iv_cookie", c.external.initialCookie)]

/-- The first setting that is no good. -/
def fault? (c : Config) : Option SettingFault :=
  if c.server.port = 0 then some .zeroPort
  else if Text.isBlankText c.version then some .blankVersion
  else
    match c.required.find? fun (_, value) => Text.isBlankText value with
    | some (name, _) => some (.blank name)
    | none => if ' ' ∈ c.external.word.toList then some .spacedWord else none

/-- Whether the service may start with these settings. -/
def IsValid (c : Config) : Prop := c.fault? = none

instance (c : Config) : Decidable c.IsValid := inferInstanceAs (Decidable (c.fault? = none))

end Config

end AccessBroker
