/-
The settings of a configuration, one by one.

A setting stands by itself or in a group. Among the fields that it stands with it alone changes its
value (`Member.lone`), so what is read for it is what the data hold at its place, and its default
where they hold nothing, whatever else there is (`Setting.readOr_of_read`).
-/
import AccessBroker.Config.Load
import AccessBroker.Proofs.Datum.Fields

namespace AccessBroker.Config

open Datum

/-- The groups of settings. -/
inductive Group where
  | server
  | cookie
  | external
  | network
  | token
  | degradedAccess
  | items
  deriving DecidableEq

namespace Group

/-- What a group of settings is read as; one setting alone is read as itself. -/
def Record : Group → Type
  | server => ServerConfig
  | cookie => CookieConfig
  | external => ExternalConfig
  | network => List String
  | token => Option UInt64
  | degradedAccess => List (String × Bool)
  | items => List (String × AccessMode)

/-- The key of the group. -/
def key : Group → String
  | server => "server"
  | cookie => "cookie"
  | external => "external"
  | network => "campus_network"
  | token => "token"
  | degradedAccess => "degraded_access"
  | items => "items"

/-- The place of the group in the configuration. -/
def index : Group → Nat
  | server => 1
  | cookie => 2
  | external => 3
  | network => 4
  | token => 5
  | degradedAccess => 6
  | items => 7

/-- The name that faults call the group by. -/
def typeName : Group → String
  | server => "ServerConfig"
  | cookie => "CookieConfig"
  | external => "ExternalConfig"
  | network => "CampusNetworkConfig"
  | token => "TokenConfig"
  | degradedAccess => "DegradedAccessConfig"
  | items => "ItemsConfig"

/-- The fields of the group. -/
def fields : (g : Group) → List (Datum.Field g.Record)
  | server => ServerConfig.fields
  | cookie => CookieConfig.fields
  | external => ExternalConfig.fields
  | network => [.of "subnets" readSubnets fun _ v => v]
  | token => [.of "expires_in" (readOption readWord) fun _ v => v]
  | degradedAccess => [.of "origins" (readTable readBool) fun _ v => v]
  | items => [.of "access_modes" (readTable (AccessMode.read .setting)) fun _ v => v]

/-- The group in a configuration. -/
def get : (g : Group) → Config → g.Record
  | server, c => c.server
  | cookie, c => c.cookie
  | external, c => c.external
  | network, c => c.subnets
  | token, c => c.expiresIn
  | degradedAccess, c => c.origins
  | items, c => c.modes

/-- A configuration with another group. -/
def put : (g : Group) → Config → g.Record → Config
  | server, c, v => { c with server := v }
  | cookie, c, v => { c with cookie := v }
  | external, c, v => { c with external := v }
  | network, c, v => { c with subnets := v }
  | token, c, v => { c with expiresIn := v }
  | degradedAccess, c, v => { c with origins := v }
  | items, c, v => { c with modes := v }

/-- Reads the group. -/
def read (g : Group) : Datum → Read g.Record :=
  readRecord .setting g.typeName g.fields (g.get default)

theorem isPart (g : Group) : IsPart g.get g.put := by
  cases g <;> exact ⟨fun _ _ => rfl, fun _ => rfl, fun _ _ _ => rfl⟩

theorem key_ne_version (g : Group) : g.key ≠ "version" := by
  cases g <;> decide

theorem key_mem (g : Group) : g.key ∈ (Config.fields .setting).map Field.key := by
  cases g <;> decide

theorem key_injective : Function.Injective key := by
  intro g g' h
  cases g <;> cases g' <;> first | rfl | exact absurd h (by decide)

end Group

variable {g : Group}

/-- The settings in each group. -/
inductive Member : Group → Type where
  | host : Member .server
  | port : Member .server
  | trustForwardedFor : Member .server
  | requestTimeout : Member .server
  | password : Member .cookie
  | salt : Member .cookie
  | name : Member .cookie
  | maxAge : Member .cookie
  | secure : Member .cookie
  | windowCloseDelay : Member .cookie
  | secret : Member .external
  | word : Member .external
  | dateFormat : Member .external
  | ciphertextCookie : Member .external
  | initialCookie : Member .external
  | subnets : Member .network
  | expiresIn : Member .token
  | origins : Member .degradedAccess
  | modes : Member .items

namespace Member

/-- What the setting is read as. -/
def Value : Member g → Type
  | host | password | salt | name | secret | word | dateFormat | ciphertextCookie
  | initialCookie => String
  | port => UInt16
  | trustForwardedFor | secure => Bool
  | requestTimeout | windowCloseDelay => UInt64
  | maxAge | expiresIn => Option UInt64
  | subnets => List String
  | origins => List (String × Bool)
  | modes => List (String × AccessMode)

/-- The key of the setting in its group. -/
def key : Member g → String
  | host => "host"
  | port => "port"
  | trustForwardedFor => "trust_forwarded_for"
  | requestTimeout => "request_timeout_secs"
  | password => "password"
  | salt => "salt"
  | name => "name"
  | maxAge => "max_age_secs"
  | secure => "secure"
  | windowCloseDelay => "window_close_delay_secs"
  | secret => "secret"
  | word => "valid_prefix"
  | dateFormat => "date_format"
  | ciphertextCookie => "ciphertext_cookie"
  | initialCookie => "iv_cookie"
  | subnets => "subnets"
  | expiresIn => "expires_in"
  | origins => "origins"
  | modes => "access_modes"

/-- The place of the setting in its group. -/
def index : Member g → Nat
  | host | password | secret | subnets | expiresIn | origins | modes => 0
  | port | salt | word => 1
  | trustForwardedFor | name | dateFormat => 2
  | requestTimeout | maxAge | ciphertextCookie => 3
  | secure | initialCookie => 4
  | windowCloseDelay => 5

/-- Reads the setting. -/
def read : (m : Member g) → Datum → Read m.Value
  | host | password | salt | name | secret | word | dateFormat | ciphertextCookie
  | initialCookie => readText
  | port => readPort
  | trustForwardedFor | secure => readBool
  | requestTimeout | windowCloseDelay => readWord
  | maxAge | expiresIn => readOption readWord
  | subnets => readSubnets
  | origins => readTable readBool
  | modes => readTable (AccessMode.read .setting)

/-- The setting in its group. -/
def get : (m : Member g) → g.Record → m.Value
  | host => ServerConfig.host
  | port => ServerConfig.port
  | trustForwardedFor => ServerConfig.trustForwardedFor
  | requestTimeout => ServerConfig.requestTimeout
  | password => CookieConfig.password
  | salt => CookieConfig.salt
  | name => CookieConfig.name
  | maxAge => CookieConfig.maxAge
  | secure => CookieConfig.secure
  | windowCloseDelay => CookieConfig.windowCloseDelay
  | secret => ExternalConfig.secret
  | word => ExternalConfig.word
  | dateFormat => ExternalConfig.dateFormat
  | ciphertextCookie => ExternalConfig.ciphertextCookie
  | initialCookie => ExternalConfig.initialCookie
  | subnets | expiresIn | origins | modes => id

/-- A group with another value of the setting. -/
def put : (m : Member g) → g.Record → m.Value → g.Record
  | host => fun (s : ServerConfig) v => { s with host := v }
  | port => fun (s : ServerConfig) v => { s with port := v }
  | trustForwardedFor => fun (s : ServerConfig) v => { s with trustForwardedFor := v }
  | requestTimeout => fun (s : ServerConfig) v => { s with requestTimeout := v }
  | password => fun (s : CookieConfig) v => { s with password := v }
  | salt => fun (s : CookieConfig) v => { s with salt := v }
  | name => fun (s : CookieConfig) v => { s with name := v }
  | maxAge => fun (s : CookieConfig) v => { s with maxAge := v }
  | secure => fun (s : CookieConfig) v => { s with secure := v }
  | windowCloseDelay => fun (s : CookieConfig) v => { s with windowCloseDelay := v }
  | secret => fun (s : ExternalConfig) v => { s with secret := v }
  | word => fun (s : ExternalConfig) v => { s with word := v }
  | dateFormat => fun (s : ExternalConfig) v => { s with dateFormat := v }
  | ciphertextCookie => fun (s : ExternalConfig) v => { s with ciphertextCookie := v }
  | initialCookie => fun (s : ExternalConfig) v => { s with initialCookie := v }
  | subnets | expiresIn | origins | modes => fun _ v => v

theorem isPart (m : Member g) : IsPart m.get m.put := by
  cases m <;> exact ⟨fun _ _ => rfl, fun _ => rfl, fun _ _ _ => rfl⟩

theorem key_injective : Function.Injective (key (g := g)) := by
  intro m m' h
  cases m <;> cases m' <;> first | rfl | exact absurd h (by decide)

end Member

/-! ## Fields -/

/-- A field stands at a place if it does, and if every other field has another key and leaves its
part alone. -/
theorem lone_of_take {σ τ : Type} {fields : List (Datum.Field σ)} {hole : Datum.Field σ} {i : Nat}
    {set : σ → τ → σ} (hi : fields[i]? = some hole)
    (hkeeps : ∀ f ∈ fields.take i ++ fields.drop (i + 1), f.key ≠ hole.key ∧ f.Keeps set) :
    Field.Lone fields hole i set := by
  obtain ⟨hlt, rfl⟩ := List.getElem?_eq_some_iff.mp hi
  refine ⟨fields.take i, fields.drop (i + 1), ?_, List.length_take_of_le (by omega), hkeeps⟩
  rw [← List.drop_eq_getElem_cons hlt, List.take_append_drop]

theorem lone_version : Field.Lone (Config.fields .setting)
    (.of "version" readText fun c v => { c with version := v }) 0
    fun c v => { c with version := v } := by
  refine lone_of_take rfl ?_
  repeat first
    | exact List.forall_mem_nil _
    | refine List.forall_mem_cons.mpr ⟨⟨by decide, Field.keeps_of fun _ _ _ => rfl⟩, ?_⟩

/-- Among the fields of a configuration that of a group alone changes anything in it. -/
theorem Group.lone_inner {τ : Type} (g : Group) (inner : g.Record → τ → g.Record) :
    Field.Lone (Config.fields .setting) (.of g.key g.read g.put) g.index
      fun c t => g.put c (inner (g.get c) t) := by
  cases g <;> refine lone_of_take rfl ?_
  all_goals repeat first
    | exact List.forall_mem_nil _
    | refine List.forall_mem_cons.mpr ⟨⟨by decide, Field.keeps_of fun _ _ _ => rfl⟩, ?_⟩

theorem Group.lone (g : Group) :
    Field.Lone (Config.fields .setting) (.of g.key g.read g.put) g.index g.put :=
  g.lone_inner fun _ v => v

theorem Member.lone (m : Member g) : Field.Lone g.fields (.of m.key m.read m.put) m.index m.put := by
  cases m <;> refine lone_of_take rfl ?_
  all_goals repeat first
    | exact List.forall_mem_nil _
    | refine List.forall_mem_cons.mpr ⟨⟨by decide, Field.keeps_of fun _ _ _ => rfl⟩, ?_⟩

/-! ## Settings -/

/-- The settings: the version by itself, and those in groups. -/
inductive Setting where
  | version
  | member {g : Group} (m : Member g)

namespace Setting

/-- What the setting is read as. -/
def Value : Setting → Type
  | version => String
  | member m => m.Value

/-- Reads the setting. -/
def read : (s : Setting) → Datum → Read s.Value
  | version => readText
  | member m => m.read

/-- The setting in a configuration. -/
def get : (s : Setting) → Config → s.Value
  | version, c => c.version
  | @member g m, c => m.get (g.get c)

/-- The keys that lead to the setting. -/
def path : Setting → List String
  | version => ["version"]
  | @member g m => [g.key, m.key]

/-- What data hold for the setting; a group, like the configuration, may be a table or a list. -/
def data? : Setting → Datum → Option Datum
  | version, d => field? "version" 0 d
  | @member g m, d => (field? g.key g.index d).bind (field? m.key m.index)

/-- The setting is no table. -/
def IsScalar : Setting → Prop
  | member .origins | member .modes => False
  | _ => True

variable {s t : Setting} {c : Config} {d : Datum}

theorem IsScalar.read_table_ne (h : s.IsScalar) (es : List (String × Datum)) (v : s.Value) :
    s.read (.table es) ≠ .ok v := by
  intro hread
  cases s with
  | version => cases hread
  | member m => cases m <;> first | exact h.elim | cases hread

/-! ### Paths -/

theorem path_eq_of_isPrefix (h : s.path <+: t.path) : s.path = t.path := by
  cases s with
  | version =>
    cases t with
    | version => rfl
    | @member g m => exact absurd (List.cons_prefix_cons.mp h).1.symm g.key_ne_version
  | @member g m =>
    cases t with
    | version => exact absurd (List.cons_prefix_cons.mp h).1 g.key_ne_version
    | member m' => exact h.eq_of_length rfl

theorem path_injective : Function.Injective path := by
  intro s t h
  cases s with
  | version =>
    cases t with
    | version => rfl
    | @member g m => exact absurd (List.cons.inj h).1.symm g.key_ne_version
  | @member g m =>
    cases t with
    | version => exact absurd (List.cons.inj h).1 g.key_ne_version
    | @member g' m' =>
      obtain rfl := Group.key_injective (List.cons.inj h).1
      rw [Member.key_injective (List.cons.inj (List.cons.inj h).2).1]

/-! ### Reading -/

/-- **A setting in a configuration that was read.** It is read from what the data hold for it, and
is the default where they hold nothing. -/
theorem readOr_of_read (s : Setting) (hkeyed : IsKeyed d) (h : Config.read .setting d = .ok c) :
    ReadOr s.read (s.get default) (s.data? d) (s.get c) := by
  cases s with
  | version =>
    have hpart : IsPart Config.version fun c v => { c with version := v } :=
      ⟨fun _ _ => rfl, fun _ => rfl, fun _ _ _ => rfl⟩
    exact readOr_of_readRecord lone_version hpart hkeyed h
  | @member g m =>
    have hgroup := readOr_of_readRecord g.lone g.isPart hkeyed h
    rw [data?]
    cases hfield : field? g.key g.index d with
    | none =>
      rw [hfield] at hgroup
      exact congrArg m.get hgroup
    | some x =>
      rw [hfield] at hgroup
      have hmember := readOr_of_readRecord m.lone m.isPart (hkeyed.of_field? hfield) hgroup
      exact hmember

/-- What the path of a setting leads to is what the data hold for it. -/
theorem exists_data?_of_supplies {a : Datum} (h : Supplies a s.path d) :
    ∃ x, s.data? d = some x ∧ Kin a x := by
  cases s with
  | version =>
    obtain ⟨es, x, rfl, hlookup, hx⟩ := h
    exact ⟨x, hlookup, hx⟩
  | @member g m =>
    obtain ⟨es, y, rfl, hlookup, fs, x, rfl, hfound, hx⟩ := h
    refine ⟨x, ?_, hx⟩
    rw [data?, field?, hlookup]
    exact hfound

end Setting

end AccessBroker.Config
