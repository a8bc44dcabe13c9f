/-
The nodes of a YAML document.

Tokens are read by descent. What an alias stands for is put in its place, so a
node is a tree; an alias inside the node that it names stands for nothing. Every
call of a reader takes one step of its fuel, and there are no more calls than
`fuelFor` counts.
-/
import AccessBroker.Yaml.Token

namespace AccessBroker.Yaml

/-- A scalar, a sequence or a mapping, each with its tag. -/
inductive Node where
  | scalar (tag : Option String) (isPlain : Bool) (s : String)
  | sequence (tag : Option String) (elements : List Node)
  | mapping (tag : Option String) (entries : List (Node × Node))

namespace Node

/-- The node where nothing is written. -/
def nothing : Node := scalar none true ""

/-- The nodes by the names of their anchors; a node that is not yet complete is `none`. -/
abbrev Anchors := List (String × Option Node)

/-- A node read, the anchors known after it, and the tokens after it. -/
abbrev Reading (α : Type) := α × Anchors × List Token

/-- The anchor and the tag in front of a node, in either order. -/
def properties : List Token → (Option String × Option String) × List Token
  | .anchor a :: .tag t :: rest => ((some a, some t), rest)
  | .tag t :: .anchor a :: rest => ((some a, some t), rest)
  | .anchor a :: rest => ((some a, none), rest)
  | .tag t :: rest => ((none, some t), rest)
  | tokens => ((none, none), tokens)

/-- Whether a token ends an entry of a block collection before anything is written. -/
def endsBlockEntry (inMapping : Bool) : Token → Bool
  | .blockEnd => true
  | .entry => !inMapping
  | .key | .value => inMapping
  | _ => false

/-- Whether a token ends an entry of a sequence that is not indented. -/
def endsLooseEntry : Token → Bool
  | .blockEnd | .entry | .key | .value => true
  | _ => false

/-- Whether a token ends a part of an entry in brackets or braces. -/
def endsFlowPart (close : Token) (t : Token) : Bool := t = .comma || t = close

mutual

/-- The node at the front. In a block collection it may be a block itself, and the value of a
mapping may be a sequence that is not indented. -/
def node? (inBlock inMapping : Bool) : Nat → Anchors → List Token → Option (Reading Node)
  | 0, _, _ => none
  | steps + 1, anchors, tokens =>
    match tokens with
    | .alias name :: rest =>
      match anchors.lookup name with
      | some (some n) => some (n, anchors, rest)
      | _ => none
    | tokens => do
      let ((name, tag), tokens) := properties tokens
      let pending := match name with
        | some a => (a, none) :: anchors
        | none => anchors
      let hasProperty := name.isSome || tag.isSome
      let (n, anchors, rest) ← content? inBlock inMapping hasProperty tag steps pending tokens
      match name with
      | some a => some (n, (a, some n) :: anchors, rest)
      | none => some (n, anchors, rest)

/-- The node at the front, behind its properties. -/
def content? (inBlock inMapping hasProperty : Bool) (tag : Option String) :
    Nat → Anchors → List Token → Option (Reading Node)
  | 0, _, _ => none
  | steps + 1, anchors, tokens =>
    match tokens, inBlock, inMapping with
    | .entry :: _, _, true => do
      let (ns, anchors, rest) ← looseEntries? steps anchors tokens
      some (sequence tag ns, anchors, rest)
    | .scalar isPlain s :: rest, _, _ => some (scalar tag isPlain s, anchors, rest)
    | .flowSequence :: rest, _, _ => do
      let (ns, anchors, rest) ← flowElements? true steps anchors rest
      some (sequence tag ns, anchors, rest)
    | .flowMapping :: rest, _, _ => do
      let (ns, anchors, rest) ← flowEntries? true steps anchors rest
      some (mapping tag ns, anchors, rest)
    | .blockSequence :: rest, true, _ => do
      let (ns, anchors, rest) ← blockEntries? steps anchors rest
      some (sequence tag ns, anchors, rest)
    | .blockMapping :: rest, true, _ => do
      let (ns, anchors, rest) ← blockPairs? steps anchors rest
      some (mapping tag ns, anchors, rest)
    | tokens, _, _ => if hasProperty then some (scalar tag true "", anchors, tokens) else none

/-- The node at the front, or nothing if a token there ends the entry. -/
def blockPart? (ends : Token → Bool) (inMapping : Bool) :
    Nat → Anchors → List Token → Option (Reading Node)
  | 0, _, _ => none
  | steps + 1, anchors, tokens =>
    match tokens with
    | t :: _ => if ends t then some (nothing, anchors, tokens) else node? true inMapping steps anchors tokens
    | [] => none

/-- The entries of a block sequence. -/
def blockEntries? : Nat → Anchors → List Token → Option (Reading (List Node))
  | 0, _, _ => none
  | steps + 1, anchors, tokens =>
    match tokens with
    | .entry :: rest => do
      let (n, anchors, rest) ← blockPart? (endsBlockEntry false) false steps anchors rest
      let (ns, anchors, rest) ← blockEntries? steps anchors rest
      some (n :: ns, anchors, rest)
    | .blockEnd :: rest => some ([], anchors, rest)
    | _ => none

/-- The entries of a sequence that is not indented. -/
def looseEntries? : Nat → Anchors → List Token → Option (Reading (List Node))
  | 0, _, _ => none
  | steps + 1, anchors, tokens =>
    match tokens with
    | .entry :: rest => do
      let (n, anchors, rest) ← blockPart? endsLooseEntry false steps anchors rest
      let (ns, anchors, rest) ← looseEntries? steps anchors rest
      some (n :: ns, anchors, rest)
    | tokens => some ([], anchors, tokens)

/-- The value of a key in a block mapping; nothing if there is no colon. -/
def blockValue? : Nat → Anchors → List Token → Option (Reading Node)
  | 0, _, _ => none
  | steps + 1, anchors, tokens =>
    match tokens with
    | .value :: rest => blockPart? (endsBlockEntry true) true steps anchors rest
    | tokens => some (nothing, anchors, tokens)

/-- The entries of a block mapping. -/
def blockPairs? : Nat → Anchors → List Token → Option (Reading (List (Node × Node)))
  | 0, _, _ => none
  | steps + 1, anchors, tokens =>
    match tokens with
    | .key :: rest => do
      let (k, anchors, rest) ← blockPart? (endsBlockEntry true) true steps anchors rest
      let (v, anchors, rest) ← blockValue? steps anchors rest
      let (ns, anchors, rest) ← blockPairs? steps anchors rest
      some ((k, v) :: ns, anchors, rest)
    | .value :: _ => do
      let (v, anchors, rest) ← blockValue? steps anchors tokens
      let (ns, anchors, rest) ← blockPairs? steps anchors rest
      some ((nothing, v) :: ns, anchors, rest)
    | .blockEnd :: rest => some ([], anchors, rest)
    | _ => none

/-- The part of an entry in brackets or braces at the front, or nothing if it ends there. -/
def flowPart? (close : Token) : Nat → Anchors → List Token → Option (Reading Node)
  | 0, _, _ => none
  | steps + 1, anchors, tokens =>
    match tokens with
    | t :: _ =>
      if t = .value || endsFlowPart close t then some (nothing, anchors, tokens)
      else node? false false steps anchors tokens
    | [] => none

/-- The value of a key in brackets or braces; nothing if there is no colon. -/
def flowValue? (close : Token) : Nat → Anchors → List Token → Option (Reading Node)
  | 0, _, _ => none
  | steps + 1, anchors, tokens =>
    match tokens with
    | .value :: t :: rest =>
      if endsFlowPart close t then some (nothing, anchors, t :: rest)
      else node? false false steps anchors (t :: rest)
    | tokens => some (nothing, anchors, tokens)

/-- The elements between brackets; one of them may be a single pair. -/
def flowElements? (isFirst : Bool) : Nat → Anchors → List Token → Option (Reading (List Node))
  | 0, _, _ => none
  | steps + 1, anchors, tokens =>
    match tokens, isFirst with
    | .flowSequenceEnd :: rest, _ => some ([], anchors, rest)
    | .comma :: .flowSequenceEnd :: rest, false => some ([], anchors, rest)
    | .comma :: rest, false => flowElement? steps anchors rest
    | tokens, true => flowElement? steps anchors tokens
    | _, _ => none

/-- An element between brackets, and those after it. -/
def flowElement? : Nat → Anchors → List Token → Option (Reading (List Node))
  | 0, _, _ => none
  | steps + 1, anchors, tokens =>
    match tokens with
    | .key :: rest => do
      let (k, anchors, rest) ← flowPart? .flowSequenceEnd steps anchors rest
      let (v, anchors, rest) ← flowValue? .flowSequenceEnd steps anchors rest
      let (ns, anchors, rest) ← flowElements? false steps anchors rest
      some (mapping none [(k, v)] :: ns, anchors, rest)
    | tokens => do
      let (n, anchors, rest) ← node? false false steps anchors tokens
      let (ns, anchors, rest) ← flowElements? false steps anchors rest
      some (n :: ns, anchors, rest)

/-- The entries between braces; an entry without a colon has no value. -/
def flowEntries? (isFirst : Bool) : Nat → Anchors → List Token → Option (Reading (List (Node × Node)))
  | 0, _, _ => none
  | steps + 1, anchors, tokens =>
    match tokens, isFirst with
    | .flowMappingEnd :: rest, _ => some ([], anchors, rest)
    | .comma :: .flowMappingEnd :: rest, false => some ([], anchors, rest)
    | .comma :: rest, false => flowEntry? steps anchors rest
    | tokens, true => flowEntry? steps anchors tokens
    | _, _ => none

/-- An entry between braces, and those after it. -/
def flowEntry? : Nat → Anchors → List Token → Option (Reading (List (Node × Node)))
  | 0, _, _ => none
  | steps + 1, anchors, tokens =>
    match tokens with
    | .key :: rest => do
      let (k, anchors, rest) ← flowPart? .flowMappingEnd steps anchors rest
      let (v, anchors, rest) ← flowValue? .flowMappingEnd steps anchors rest
      let (ns, anchors, rest) ← flowEntries? false steps anchors rest
      some ((k, v) :: ns, anchors, rest)
    | tokens => do
      let (k, anchors, rest) ← node? false false steps anchors tokens
      let (ns, anchors, rest) ← flowEntries? false steps anchors rest
      some ((k, nothing) :: ns, anchors, rest)

end

/-- How many calls it takes at most to read some tokens. -/
def fuelFor (tokens : List Token) : Nat := 4 * tokens.length + 8

/-- Drops the marks of the ends of documents. -/
def dropEnds (tokens : List Token) : List Token := tokens.dropWhile (· = .documentEnd)

/-- The tokens of a document that is marked at its start; a directive asks for the mark. -/
def marked? : List Token → Option (List Token)
  | .directive :: .documentStart :: rest => some rest
  | .documentStart :: rest => some rest
  | _ => none

/-- Whether a document begins with a mark or a directive. -/
def isMarked : List Token → Bool
  | .directive :: _ | .documentStart :: _ => true
  | _ => false

/-- Whether nothing is written between the start of a document and a mark. -/
def isBare : List Token → Bool
  | [] | .documentEnd :: _ | .documentStart :: _ | .directive :: _ => true
  | _ => false

/-- The root of a document, and the tokens after it. -/
def root? (tokens : List Token) : Option (Node × List Token) :=
  (node? true false (fuelFor tokens) [] tokens).map fun (n, _, rest) => (n, rest)

/-- The one document of some tokens; `none` inside is a text without any document. -/
def ofTokens? (tokens : List Token) : Option (Option Node) :=
  if tokens.isEmpty then some none
  else do
    let (n, rest) ←
      if isMarked tokens then do
        let inside ← marked? tokens
        if isBare inside then some (nothing, inside) else root? inside
      else root? tokens
    if (dropEnds rest).isEmpty then some (some n) else none

/-- The document that some characters spell. -/
def ofChars? (cs : List Char) : Option (Option Node) := (Token.ofChars? cs).bind ofTokens?

end Node

end AccessBroker.Yaml
