/-
International host names in ASCII.

A name is mapped to the forms that stand for the same name and cut at its
dots. A part beyond ASCII must be fit for a name and is written in letters,
digits and hyphens behind `xn--`; a part that begins so must come from one that
is fit. If some part runs from right to left, all parts keep to the rules that
make such names readable.
-/
import AccessBroker.Idna.Composition
import AccessBroker.Idna.Punycode
import AccessBroker.Text.Utf8

namespace AccessBroker.Idna

/-! ## Mapping -/

/-- Characters after mapping; `none` if one may not stand in a name. -/
def mapChars? : List Char → Option (List Char)
  | [] => some []
  | c :: rest =>
    if c.toNat < 0x80 then (mapChars? rest).map (Text.asciiLower c :: ·)
    else if isForbidden c then none
    else if isIgnored c then mapChars? rest
    else (mapChars? rest).map ((mapped? c).getD [c] ++ ·)

/-- A name after mapping, in composed form. -/
def normalize? (cs : List Char) : Option (List Char) := (mapChars? cs).map Composition.normal

/-! ## Joiners -/

/-- Whether, past characters that let others through, one stands that joins as asked. -/
def joins (accept : Joining → Bool) : List Char → Bool
  | [] => false
  | c :: rest => if joining c = .transparent then joins accept rest else accept (joining c)

/-- Whether each joiner stands behind a character that calls for it; `before` holds the characters
in front, the last first. -/
def joinersFit (before : List Char) : List Char → Bool
  | [] => true
  | c :: rest =>
    let afterVirama := (before.head?.map fun b => combiningClass b.toNat) = some 9
    let fits :=
      if c = '\u200D' then afterVirama
      else if c = '\u200C' then
        afterVirama ||
          (joins (fun j => j = .left || j = .dual) before &&
            joins (fun j => j = .right || j = .dual) rest)
      else true
    fits && joinersFit (c :: before) rest

/-! ## Parts beyond ASCII -/

/-- Whether a part beyond ASCII is fit for a name. -/
def isFit (cs : List Char) : Bool :=
  !(cs.head?.any isMark) && joinersFit [] cs

/-- Whether a part begins with the sign that it is written in letters, digits and hyphens. -/
def signed? (cs : List Char) : Option (List Char) := Text.after? "xn--".toList cs

/-- The characters of a part; `none` if it is not fit. -/
def plain? (part : List Char) : Option (List Char) :=
  match signed? part with
  | some told =>
    match Punycode.decode? told with
    | none => none
    | some cs =>
      if cs.all (fun c => c.toNat < 0x80) then none
      else if normalize? cs = some cs ∧ isFit cs ∧ !cs.contains '.' then some cs
      else none
  | none => if part.all (fun c => c.toNat < 0x80) ∨ isFit part then some part else none

/-- A part in ASCII. -/
def asciiPart (cs : List Char) : List Char :=
  if cs.all fun c => c.toNat < 0x80 then cs else "xn--".toList ++ Punycode.encode cs

/-! ## Direction -/

/-- Whether a character makes a name run from right to left. -/
def isRightward (c : Char) : Bool :=
  0x590 ≤ c.toNat &&
    (direction c = .right || direction c = .arabicLetter || direction c = .arabicNumber)

/-- The class of direction at the end, past marks. -/
def lastDirection? (cs : List Char) : Option Direction :=
  ((cs.map direction).reverse.dropWhile (· = .mark)).head?

/-- What may stand in a part of either direction. -/
def isShared (d : Direction) : Bool :=
  d = .european || d = .europeanSeparator || d = .commonSeparator || d = .europeanTerminator ||
    d = .neutral || d = .boundary || d = .mark

/-- Whether a part keeps to the rules of a name that runs from right to left. -/
def directionFits (cs : List Char) : Bool :=
  let ds := cs.map direction
  match ds.head? with
  | none => true
  | some .left =>
    ds.all (fun d => d = .left || isShared d) &&
      (lastDirection? cs = some .left || lastDirection? cs = some .european)
  | some d =>
    (d = .right || d = .arabicLetter) &&
      ds.all (fun d => d = .right || d = .arabicLetter || d = .arabicNumber || isShared d) &&
      (match lastDirection? cs with
        | some e => e = .right || e = .arabicLetter || e = .european || e = .arabicNumber
        | none => false) &&
      !(ds.contains .european && ds.contains .arabicNumber)

/-! ## Names -/

/-- Whether an ASCII character may not stand in a host name. -/
def isRefused (c : Char) : Bool :=
  c.toNat ≤ 0x20 || c.toNat = 0x7F || "%#/:<>?@[\\]^|".toList.contains c

/-- A name in ASCII, if all its parts are fit. -/
def toAscii? (cs : List Char) : Option (List Char) :=
  match normalize? cs with
  | none => none
  | some cs =>
    match (Text.splitAll '.' cs).mapM plain? with
    | none => none
    | some parts =>
      let fits := !(parts.any (·.any isRightward)) || parts.all directionFits
      let name := List.intercalate ['.'] (parts.map asciiPart)
      if fits && !name.any isRefused then some name else none

end AccessBroker.Idna
