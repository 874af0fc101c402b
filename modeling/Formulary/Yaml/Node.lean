import Formulary.Yaml.Scan

/-!
# Nodes of YAML

A document is a node: a scalar, a sequence or a mapping. An alias stands for the node its anchor
names; one inside the node itself is `cyclic`. A text without any document is the `absent` node.

The grammar is read from the tokens by functions that take what is left and give a node with what is
left after it. They recurse on a bound on the depth of the reading; four steps for each token are enough.
-/

namespace Formulary.Yaml

/-- A node of a document. A tag is given in full. -/
inductive Node where
  | scalar (tag : Option String) (s : ScalarText)
  | sequence (tag : Option String) (items : List Node)
  | mapping (tag : Option String) (entries : List (Node × Node))
  | cyclic
  | absent
deriving Inhabited

namespace Node

/-- The node of a place where nothing is written. -/
def blank : Node := .scalar none ⟨"", true⟩

end Node

/-- What the nodes read so far define: the replacements of tag handles and the nodes of anchors. -/
structure Names where
  handles : List (String × String)
  anchors : List (String × Node) := []

namespace Names

/-- The node of an anchor; the latest definition counts. -/
def anchor? (n : Names) (name : String) : Option Node :=
  (n.anchors.find? (·.1 == name)).map (·.2)

/-- Defines an anchor, if there is one. -/
def define (n : Names) (anchor : Option String) (node : Node) : Names :=
  match anchor with
  | none => n
  | some name => { n with anchors := (name, node) :: n.anchors }

/-- A tag in full; none if its handle is not declared. -/
def tag? (n : Names) (t : TagName) : Option String :=
  if t.handle.isEmpty then some t.suffix
  else (n.handles.find? (·.1 == t.handle)).map (·.2 ++ t.suffix)

end Names

/-- Anchor and tag in front of a node. -/
structure Properties where
  anchor : Option String := none
  tag : Option TagName := none

namespace Properties

/-- Takes an anchor and a tag, in either order. -/
def take : List Token → Properties × List Token
  | .anchor a :: .tag t :: ts => (⟨some a, some t⟩, ts)
  | .tag t :: .anchor a :: ts => (⟨some a, some t⟩, ts)
  | .anchor a :: ts => (⟨some a, none⟩, ts)
  | .tag t :: ts => (⟨none, some t⟩, ts)
  | ts => ({}, ts)

/-- There is an anchor or a tag. -/
def isGiven (p : Properties) : Bool :=
  p.anchor.isSome || p.tag.isSome

end Properties

/-- What has been read, with the definitions made and the tokens left. -/
abbrev Part (α : Type) := α × Names × List Token

/-- Which collections may start at a node. -/
inductive Place where
  /-- Inside a flow collection. -/
  | flow
  /-- In a block. -/
  | block
  /-- In a block, where a block sequence need not be indented further. -/
  | blockValue
deriving DecidableEq

/-- A token that ends an entry of a block sequence without its own indentation. -/
def endsLooseEntry : List Token → Bool
  | .blockEntry :: _ | .key :: _ | .value :: _ | .blockEnd :: _ => true
  | _ => false

/-- A token that ends an entry of a block sequence. -/
def endsEntry : List Token → Bool
  | .blockEntry :: _ | .blockEnd :: _ => true
  | _ => false

/-- A token that ends a key or a value of a block mapping. -/
def endsBlockPart : List Token → Bool
  | .key :: _ | .value :: _ | .blockEnd :: _ => true
  | _ => false

/-- A token that ends a part of a pair in a flow sequence. -/
def endsPairPart : List Token → Bool
  | .flowEntry :: _ | .closeSequence :: _ => true
  | _ => false

/-- A token that ends a part of an entry of a flow mapping. -/
def endsFlowPart : List Token → Bool
  | .flowEntry :: _ | .closeMapping :: _ => true
  | _ => false

/-- A value stands here. -/
def atValue : List Token → Bool
  | .value :: _ => true
  | _ => false

/-- The tokens after the comma between entries; none is needed before the first. -/
def nextEntry? (first : Bool) : List Token → Option (List Token)
  | .flowEntry :: ts => if first then some (.flowEntry :: ts) else some ts
  | ts => if first then some ts else none

mutual

/-- Reads a node. -/
def node? : (limit : Nat) → Place → Names → List Token → Option (Part Node)
  | 0, _, _, _ => none
  | limit + 1, place, names, tokens =>
    match tokens with
    | .alias name :: ts => (names.anchor? name).map (·, names, ts)
    | _ => do
      let (properties, ts) := Properties.take tokens
      let tag ← match properties.tag with
        | none => pure none
        | some t => (names.tag? t).map some
      let names := names.define properties.anchor .cyclic
      let (node, names, ts) ← content? limit place properties.isGiven tag names ts
      return (node, names.define properties.anchor node, ts)

/-- Reads what follows the anchor and the tag of a node. -/
def content? : (limit : Nat) → Place → (given : Bool) → (tag : Option String) → Names →
    List Token → Option (Part Node)
  | 0, _, _, _, _, _ => none
  | limit + 1, place, given, tag, names, tokens =>
    match tokens with
    | .scalar s :: ts => some (.scalar tag s, names, ts)
    | .openSequence :: ts =>
      (flowItems? limit true names ts).map fun (items, rest) => (.sequence tag items, rest)
    | .openMapping :: ts =>
      (flowEntries? limit true names ts).map fun (entries, rest) => (.mapping tag entries, rest)
    | .blockEntry :: _ =>
      if place = .blockValue then
        (looseItems? limit names tokens).map fun (items, rest) => (.sequence tag items, rest)
      else if given then some (.scalar tag ⟨"", true⟩, names, tokens)
      else none
    | .blockSequence :: ts =>
      if place = .flow then none
      else (blockItems? limit names ts).map fun (items, rest) => (.sequence tag items, rest)
    | .blockMapping :: ts =>
      if place = .flow then none
      else (blockEntries? limit names ts).map fun (entries, rest) => (.mapping tag entries, rest)
    | _ => if given then some (.scalar tag ⟨"", true⟩, names, tokens) else none

/-- Reads the items of a block sequence and its end. -/
def blockItems? : (limit : Nat) → Names → List Token → Option (Part (List Node))
  | 0, _, _ => none
  | limit + 1, names, .blockEntry :: ts => do
    let (item, names, ts) ←
      if endsEntry ts then some (Node.blank, names, ts) else node? limit .block names ts
    let (items, names, ts) ← blockItems? limit names ts
    return (item :: items, names, ts)
  | _, names, .blockEnd :: ts => some ([], names, ts)
  | _, _, _ => none

/-- Reads the items of a block sequence that is not indented further than its mapping. -/
def looseItems? : (limit : Nat) → Names → List Token → Option (Part (List Node))
  | 0, _, _ => none
  | limit + 1, names, .blockEntry :: ts => do
    let (item, names, ts) ←
      if endsLooseEntry ts then some (Node.blank, names, ts) else node? limit .block names ts
    let (items, names, ts) ← looseItems? limit names ts
    return (item :: items, names, ts)
  | _, names, ts => some ([], names, ts)

/-- Reads the entries of a block mapping and its end. -/
def blockEntries? : (limit : Nat) → Names → List Token → Option (Part (List (Node × Node)))
  | 0, _, _ => none
  | limit + 1, names, .key :: ts => do
    let (key, names, ts) ←
      if endsBlockPart ts then some (Node.blank, names, ts) else node? limit .blockValue names ts
    let (value, names, ts) ← match ts with
      | .value :: ts =>
        if endsBlockPart ts then some (Node.blank, names, ts) else node? limit .blockValue names ts
      | ts => some (Node.blank, names, ts)
    let (entries, names, ts) ← blockEntries? limit names ts
    return ((key, value) :: entries, names, ts)
  | _, names, .blockEnd :: ts => some ([], names, ts)
  | _, _, _ => none

/-- Reads the items of a flow sequence and its end. -/
def flowItems? : (limit : Nat) → (first : Bool) → Names → List Token → Option (Part (List Node))
  | 0, _, _, _ => none
  | _, _, names, .closeSequence :: ts => some ([], names, ts)
  | limit + 1, first, names, ts => do
    match ← nextEntry? first ts with
    | .closeSequence :: ts => some ([], names, ts)
    | .key :: ts =>
      let (pair, names, ts) ← pair? limit names ts
      let (items, names, ts) ← flowItems? limit false names ts
      return (pair :: items, names, ts)
    | ts =>
      let (item, names, ts) ← node? limit .flow names ts
      let (items, names, ts) ← flowItems? limit false names ts
      return (item :: items, names, ts)

/-- Reads a mapping of one entry inside a flow sequence, after the mark of its key. -/
def pair? : (limit : Nat) → Names → List Token → Option (Part Node)
  | 0, _, _ => none
  | limit + 1, names, ts => do
    let (key, names, ts) ←
      if atValue ts || endsPairPart ts then some (Node.blank, names, ts.drop 1)
      else node? limit .flow names ts
    let (value, names, ts) ← match ts with
      | .value :: ts =>
        if endsPairPart ts then some (Node.blank, names, ts) else node? limit .flow names ts
      | ts => some (Node.blank, names, ts)
    return (.mapping none [(key, value)], names, ts)

/-- Reads the entries of a flow mapping and its end. -/
def flowEntries? : (limit : Nat) → (first : Bool) → Names → List Token →
    Option (Part (List (Node × Node)))
  | 0, _, _, _ => none
  | _, _, names, .closeMapping :: ts => some ([], names, ts)
  | limit + 1, first, names, ts => do
    match ← nextEntry? first ts with
    | .closeMapping :: ts => some ([], names, ts)
    | .key :: ts =>
      let (key, names, ts) ←
        if atValue ts || endsFlowPart ts then some (Node.blank, names, ts)
        else node? limit .flow names ts
      let (value, names, ts) ← match ts with
        | .value :: ts =>
          if endsFlowPart ts then some (Node.blank, names, ts) else node? limit .flow names ts
        | ts => some (Node.blank, names, ts)
      let (entries, names, ts) ← flowEntries? limit false names ts
      return ((key, value) :: entries, names, ts)
    | ts =>
      let (key, names, ts) ← node? limit .flow names ts
      let (entries, names, ts) ← flowEntries? limit false names ts
      return ((key, Node.blank) :: entries, names, ts)

end

/-- The handles every document declares. -/
def standardHandles : List (String × String) :=
  [("!", "!"), ("!!", "tag:yaml.org,2002:")]

/-- Takes the directives in front of a document; each handle is declared once, and the version,
given once at most, is 1.1 or 1.2. -/
def directives? : (versioned : Bool) → (handles : List (String × String)) → List Token →
    Option (List (String × String) × List Token)
  | versioned, handles, .version major minor :: ts =>
    if versioned || major != 1 || (minor != 1 && minor != 2) then none
    else directives? true handles ts
  | versioned, handles, .tagHandle handle text :: ts =>
    if handles.any (·.1 == handle) then none
    else directives? versioned (handles ++ [(handle, text)]) ts
  | _, handles, ts => some (handles, ts)

/-- A token that stands at the level of documents. -/
def atDocumentLevel : List Token → Bool
  | [] => true
  | .version .. :: _ | .tagHandle .. :: _ | .documentStart :: _ | .documentEnd :: _ => true
  | _ => false

/-- Reads the node of a document after its directives and its start. -/
def documentNode? (handles : List (String × String)) (ts : List Token) : Option (Node × List Token) :=
  if atDocumentLevel ts then some (Node.blank, ts)
  else (node? (4 * ts.length + 4) .block ⟨handles ++ standardHandles, []⟩ ts).map
    fun (node, _, ts) => (node, ts)

/-- Nothing but marks of the end of documents. -/
def isOver (ts : List Token) : Bool :=
  ts.all (· == .documentEnd)

/-- The one document of a list of tokens. -/
def document? : List Token → Option Node
  | [] => some .absent
  | .documentEnd :: _ => none
  | ts => do
    let (handles, rest) ← directives? false [] ts
    let (node, rest) ← match rest with
      | .documentStart :: rest => documentNode? handles rest
      | rest =>
        if rest.length = ts.length && !atDocumentLevel rest then documentNode? handles rest else none
    if isOver rest then some node else none

/-- The document of a text, if the text holds one document at most. -/
def read? (cs : List Char) : Option Node := do
  document? (← tokens? cs).toList

end Formulary.Yaml
