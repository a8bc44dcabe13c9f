/-
Paths of addresses on the web.

A path is a list of segments, or one text that has no structure. A segment of
one dot is left out, and one of two dots takes away the segment before it; a
dot may be spelled by its byte. A path of files keeps its drive letter and has
no empty segments in front.
-/
import AccessBroker.Text.Percent

namespace AccessBroker.Url

/-- A path. -/
inductive Path where
  | opaqueText (s : String)
  | segments (ss : List String)
  deriving DecidableEq

namespace Path

/-- The text of a path. -/
def text : Path → String
  | opaqueText s => s
  | segments ss => String.join (ss.map fun s => "/" ++ s)

/-- Whether a character of a fragment is spelled by its bytes. -/
def inFragment (c : Char) : Bool := " \"<>`".toList.contains c

/-- Whether a character of a path is spelled by its bytes. -/
def inPath (c : Char) : Bool := inFragment c || "#?\x7b\x7d".toList.contains c

/-- Whether a segment is one dot. -/
def isDot (s : String) : Bool := s = "." || s = "%2e" || s = "%2E"

/-- Whether a segment is two dots. -/
def isTwoDots (s : String) : Bool :=
  [".", "%2e", "%2E"].any fun a => [".", "%2e", "%2E"].any fun b => s = a ++ b

/-- Whether a text is a letter and a colon, or a bar in the place of the colon. -/
def isDrive (bar : Bool) (s : String) : Bool :=
  match s.toList with
  | [a, c] => a.isAlpha && (c = ':' || (bar && c = '|'))
  | _ => false

/-- A path without its last segment; a drive letter alone stays. -/
def shorten (files : Bool) (ss : List String) : List String :=
  match files, ss with
  | true, [s] => if isDrive false s then [s] else []
  | _, ss => ss.dropLast

/-- A segment as it is added to a path; a drive letter at the front gets its colon. -/
def spelled (files : Bool) (before : List String) (s : String) : String :=
  if files && before.isEmpty && isDrive true s then String.ofList (s.toList.take 1 ++ [':']) else s

/-- Adds segments to a path; the last one has no slash behind it. -/
def resolve (files : Bool) (before : List String) : List String → List String
  | [] => before
  | [last] =>
    if isTwoDots last then shorten files before ++ [""]
    else if isDot last then before ++ [""]
    else before ++ [spelled files before last]
  | s :: rest =>
    if isTwoDots s then resolve files (shorten files before) rest
    else if isDot s then resolve files before rest
    else resolve files (before ++ [spelled files before s]) rest

/-- The segments of a text that has no slash in front; under a scheme of the web a backslash is a
slash. -/
def cut (web : Bool) (cs : List Char) : List String :=
  let slashed := if web then cs.map fun c => if c = '\\' then '/' else c else cs
  (Text.splitAll '/' slashed).map fun s => String.ofList (Text.Percent.encodeChars inPath s)

/-- The segments of a path of files. -/
def ofFiles (cs : List Char) : List String :=
  let ss := (resolve true [] (cut true cs)).dropWhile (· = "")
  if ss.isEmpty then [""] else ss

end Path

end AccessBroker.Url
