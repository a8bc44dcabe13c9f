/-
Where a broker listens.

Brackets around a host are taken away (`bare`), and put back if it has colons. So an endpoint is
found exactly if the bare host names one, and no host brings a port of its own with it
(`endpoint_eq_ok_iff`).
-/
import AccessBroker.Broker.Basic
import AccessBroker.Proofs.Address.Endpoint
import Mathlib.Data.List.DropRight

namespace AccessBroker

open Endpoint (Names)

/-! ## Bare hosts -/

/-- A host without the brackets that open at its front and those that close at its end. -/
def bare (host : List Char) : List Char :=
  ((host.dropWhile (· = '[')).reverse.dropWhile (· = ']')).reverse

theorem head?_bare (host : List Char) : (bare host).head? ≠ some '[' := by
  intro h
  obtain ⟨rest, hrest⟩ := List.head?_eq_some_iff.mp h
  have hprefix : bare host <+: host.dropWhile (· = '[') :=
    List.rdropWhile_prefix (· = ']') (host.dropWhile (· = '['))
  obtain ⟨back, hback⟩ := hprefix
  have hfront := List.head?_dropWhile_not (· = '[') host
  rw [← hback, hrest] at hfront
  cases hfront

theorem dropWhile_replicate {c : Char} {cs : List Char} (h : c ∉ cs) (n : Nat) :
    (List.replicate n c ++ cs).dropWhile (· = c) = cs := by
  rw [List.dropWhile_append_of_pos fun d hd => decide_eq_true (List.eq_of_mem_replicate hd)]
  cases cs with
  | nil => rfl
  | cons d cs => exact List.dropWhile_cons_of_neg fun hd => h (by simp [of_decide_eq_true hd])

/-- Brackets around a host that has none are all that is taken away. -/
theorem bare_brackets {host : List Char} (h : '[' ∉ host ∧ ']' ∉ host) (m n : Nat) :
    bare (List.replicate m '[' ++ host ++ List.replicate n ']') = host := by
  have hopen : '[' ∉ host ++ List.replicate n ']' := by simp [h.1]
  have hclose : ']' ∉ host.reverse := by simp [h.2]
  rw [bare, List.append_assoc, dropWhile_replicate hopen, List.reverse_append,
    List.reverse_replicate, dropWhile_replicate hclose, List.reverse_reverse]

/-! ## Endpoints -/

/-- The endpoint of an address, without a scope. -/
def Endpoint.ofAddress (port : Nat) : Address → Endpoint
  | .v4 a => v4 a port
  | .v6 a => v6 a 0 port

theorem Endpoint.names_text (port : Nat) (a : Address) :
    Names port a.text.toList (ofAddress port a) := by
  cases a with
  | v4 a =>
    rw [Address.text, AddressV4.text, String.toList_ofList]
    exact .dotted a.isDotted_chars
  | v6 a =>
    rw [Address.text, AddressV6.text, String.toList_ofList]
    exact .literal a.isLiteral_chars

namespace ServerConfig

variable (s : ServerConfig)

theorem toList_bindText : s.bindText.toList =
    if ':' ∈ bare s.host.toList then
      '[' :: (bare s.host.toList ++ ']' :: ':' :: Text.natDigits s.port.toNat)
    else bare s.host.toList ++ ':' :: Text.natDigits s.port.toNat := by
  simp [bindText, bare, Text.natText, apply_ite String.toList]

/-- A text with a port behind it is read in one of two ways, which the colons in it tell apart. -/
theorem endpoint_eq_ok_iff_names (e : Endpoint) :
    s.endpoint = .ok e ↔ Names s.port.toNat (bare s.host.toList) e := by
  have hport : s.port.toNat ≤ 65535 := Nat.le_of_lt_succ s.port.toNat_lt
  have hread : s.endpoint = .ok e ↔ Endpoint.ofText? s.bindText = some e := by
    rw [endpoint]
    cases Endpoint.ofText? s.bindText <;> simp
  rw [hread, Endpoint.ofText?, toList_bindText]
  by_cases hcolon : ':' ∈ bare s.host.toList
  · rw [if_pos hcolon, Endpoint.ofPlain?_bracket]
    dsimp only
    rw [Endpoint.ofBracketed?_eq_some_iff hport, and_iff_right hcolon]
  · have hhead : (bare s.host.toList ++ ':' :: Text.natDigits s.port.toNat).head? ≠ some '[' := by
      have := head?_bare s.host.toList
      cases hhost : bare s.host.toList with
      | nil => simp
      | cons c host => rwa [hhost] at this
    rw [if_neg hcolon, Endpoint.ofBracketed?_eq_none hhead,
      ← Endpoint.ofPlain?_eq_some_iff hport hcolon]
    cases Endpoint.ofPlain? (bare s.host.toList ++ ':' :: Text.natDigits s.port.toNat) <;> rfl

/-- **What is listened on.** An endpoint is found exactly if the host, its brackets apart, names one
at the port of the configuration; and the text of any address names it, in whatever brackets. -/
theorem endpoint_eq_ok_iff :
    (∀ e, s.endpoint = .ok e ↔ Names s.port.toNat (bare s.host.toList) e) ∧
    ∀ (a : Address) (m n : Nat),
      ServerConfig.endpoint { s with
        host := .ofList (List.replicate m '[' ++ a.text.toList ++ List.replicate n ']') } =
          .ok (.ofAddress s.port.toNat a) := by
  refine ⟨endpoint_eq_ok_iff_names s, fun a m n => ?_⟩
  have hnames := Endpoint.names_text s.port.toNat a
  rw [endpoint_eq_ok_iff_names, String.toList_ofList, bare_brackets hnames.bracket_not_mem]
  exact hnames

/-- Not every numeral is a scope: one that needs more than 32 bits is refused. -/
theorem endpoint_wide_scope :
    AddressV6.IsLiteral "::1".toList ⟨1⟩ ∧ Text.IsNumeral "4294967296".toList 4294967296 ∧
    bare "::1%4294967296".toList = "::1".toList ++ '%' :: "4294967296".toList ∧
    ServerConfig.endpoint ⟨"::1%4294967296", 8888, false, 30⟩ =
      .error (.bindAddress "[::1%4294967296]:8888") :=
  ⟨AddressV6.ofChars?_eq_some_iff.mp (by decide), Text.isNumeral_natDigits 4294967296, by decide,
    rfl⟩

end ServerConfig

end AccessBroker
