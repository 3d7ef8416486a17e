import SwitchPlatform.Yaml.Token

/-!
# Flat documents

Documents that map scalars to scalars. `document?` gives the entries of the only document of a
text, in their order and with repeated keys. An empty document is an empty mapping. A scalar
without text and the words for null stand for nothing, unless quotes or a tag say that they are
text. References are resolved when the whole document is read, by the numbers of their anchors; see
`Anchors`.
-/

namespace SwitchPlatform.Yaml

/-- A scalar of a document. -/
structure Scalar where
  text : String := ""
  isPlain : Bool := true
  tag : Option Tag := none
  deriving DecidableEq

namespace Scalar

/-- The words for null. -/
def isNullWord (s : String) : Bool :=
  s == "~" || s == "null" || s == "Null" || s == "NULL"

/-- The text of a scalar that may stand for nothing. A scalar that is tagged as null and has other
text is refused. -/
def optionalText? (s : Scalar) : Option (Option String) :=
  if !s.isPlain then some (some s.text)
  else
    match s.tag with
    | none => some (if s.text = "" ∨ isNullWord s.text then none else some s.text)
    | some tag =>
      if tag ≠ Tag.null then some (some s.text)
      else if isNullWord s.text then some none
      else none

/-- The name of a choice: the text, or else the name in a tag of the document's own, which nothing
may follow then. -/
def choice? (s : Scalar) : Option String :=
  match s.tag.bind Tag.ownName? with
  | some name =>
    if s.isPlain ∧ (s.text = "" ∨ isNullWord s.text) then some name else none
  | none => some s.text

end Scalar

/-- What is said of a node before it. -/
structure Properties where
  anchor : Option String := none
  tag : Option WrittenTag := none

namespace Properties

/-- Is anything said? -/
def isGiven (p : Properties) : Bool :=
  p.anchor.isSome || p.tag.isSome

/-- The anchor and the tag before a node, in either order. -/
def read : List Token → Properties × List Token
  | .anchor a :: .tag t :: rest => (⟨some a, some t⟩, rest)
  | .tag t :: .anchor a :: rest => (⟨some a, some t⟩, rest)
  | .anchor a :: rest => (⟨some a, none⟩, rest)
  | .tag t :: rest => (⟨none, some t⟩, rest)
  | rest => ({}, rest)

/-- The tag that is meant, if there is one; its handle has to be known. -/
def tag? (handles : TagHandles) (p : Properties) : Option (Option Tag) :=
  match p.tag with
  | none => some none
  | some t => (t.resolve? handles).map some

end Properties

/-- A key or a value as it stands in the text. -/
inductive Node
  | scalar (s : Scalar)
  /-- What the anchor with a number stands for. -/
  | reference (number : Nat)

/-- The anchors so far. An anchor gets the number of names that were known before it, even if its
own name is one of them, so a name that is given again may share its number with the next new name.
A name has its latest number, and a number stands for its latest node. -/
structure Anchors where
  /-- The names with their numbers, no name twice. -/
  numbers : List (String × Nat) := []
  /-- The nodes with their numbers, the latest first; none is the mapping itself. -/
  nodes : List (Nat × Option Scalar) := []

namespace Anchors

/-- The anchors with one more, if a node has one. -/
def add (anchors : Anchors) (p : Properties) (node : Option Scalar) : Anchors :=
  match p.anchor with
  | none => anchors
  | some name =>
    let number := anchors.numbers.length
    { numbers := (name, number) :: anchors.numbers.filter (·.1 != name)
      nodes := (number, node) :: anchors.nodes }

/-- The scalar of a node; a reference to the mapping has none. -/
def resolve? (anchors : Anchors) : Node → Option Scalar
  | .scalar s => some s
  | .reference number => (anchors.nodes.lookup number).join

/-- The scalars of all entries. -/
def resolveAll? (anchors : Anchors) (entries : List (Node × Node)) :
    Option (List (Scalar × Scalar)) :=
  entries.mapM fun e => do return (← anchors.resolve? e.1, ← anchors.resolve? e.2)

end Anchors

/-- A node that was read, with the anchors so far and what follows it. -/
abbrev FoundNode := Option (Node × Anchors × List Token)

/-- A node without text. -/
def emptyNode : Node := .scalar {}

/-- Reads a scalar or a reference to one. A node of which only properties are given is empty. -/
def node? (handles : TagHandles) (anchors : Anchors) (ts : List Token) : FoundNode :=
  match ts with
  | .reference a :: rest =>
    (anchors.numbers.lookup a).map fun number => (.reference number, anchors, rest)
  | _ => do
    let (p, rest) := Properties.read ts
    let tag ← p.tag? handles
    match rest with
    | .scalar text isPlain :: rest =>
      let s : Scalar := ⟨text, isPlain, tag⟩
      return (.scalar s, anchors.add p s, rest)
    | .mappingStart :: _ => none
    | .braceOpen :: _ => none
    | _ =>
      let s : Scalar := { tag := tag }
      if p.isGiven then return (.scalar s, anchors.add p s, rest) else none

/-- Does one of the given tokens, or nothing, come next? -/
def comesNext (which : List Token) : List Token → Bool
  | [] => true
  | t :: _ => which.contains t

/-- Reads a node, or an empty scalar before one of the given tokens. -/
def nodeOrEmpty? (handles : TagHandles) (anchors : Anchors) (before : List Token)
    (ts : List Token) : FoundNode :=
  if comesNext before ts then some (emptyNode, anchors, ts) else node? handles anchors ts

/-- Reads the value behind a key, which may be missing. -/
def value? (handles : TagHandles) (anchors : Anchors) (before : List Token) :
    List Token → FoundNode
  | .value :: rest => nodeOrEmpty? handles anchors before rest
  | rest => some (emptyNode, anchors, rest)

/-- The entries that were read, with all anchors and what follows them. -/
abbrev FoundEntries := Option (List (Node × Node) × Anchors × List Token)

/-- Reads the entries of a block mapping; every entry takes a token at least. -/
def blockEntries? (handles : TagHandles) :
    Nat → Anchors → List Token → FoundEntries
  | 0, _, _ => none
  | fuel + 1, anchors, ts =>
    match ts with
    | .blockEnd :: rest => some ([], anchors, rest)
    | .key :: rest => do
      let (k, anchors, rest) ← nodeOrEmpty? handles anchors [.key, .value, .blockEnd] rest
      let (v, anchors, rest) ← value? handles anchors [.key, .value, .blockEnd] rest
      let (entries, anchors, rest) ← blockEntries? handles fuel anchors rest
      return ((k, v) :: entries, anchors, rest)
    | _ => none

/-- Reads one entry between braces. -/
def braceEntry? (handles : TagHandles) (anchors : Anchors) (ts : List Token) :
    Option ((Node × Node) × Anchors × List Token) :=
  match ts with
  | .key :: rest => do
    let (k, anchors, rest) ← nodeOrEmpty? handles anchors [.value, .comma, .braceClose] rest
    let (v, anchors, rest) ← value? handles anchors [.comma, .braceClose] rest
    return ((k, v), anchors, rest)
  | _ => do
    let (k, anchors, rest) ← node? handles anchors ts
    return ((k, emptyNode), anchors, rest)

/-- Reads the entries between braces; a comma may follow the last one. -/
def braceEntries? (handles : TagHandles) :
    Nat → Anchors → List Token → FoundEntries
  | 0, _, _ => none
  | fuel + 1, anchors, ts =>
    match ts with
    | .braceClose :: rest => some ([], anchors, rest)
    | _ => do
      let (e, anchors, rest) ← braceEntry? handles anchors ts
      match rest with
      | .comma :: rest => do
        let (entries, anchors, rest) ← braceEntries? handles fuel anchors rest
        return (e :: entries, anchors, rest)
      | .braceClose :: rest => return ([e], anchors, rest)
      | _ => none

/-- A document that was read, with what follows it. -/
abbrev Found := Option (List (Scalar × Scalar) × List Token)

/-- Reads the mapping of a document, which may have an anchor as well; properties alone make an
empty one. -/
def root? (handles : TagHandles) (ts : List Token) : Found := do
  let (p, rest) := Properties.read ts
  let _ ← p.tag? handles
  let anchors := Anchors.add {} p none
  match rest with
  | .mappingStart :: rest => do
    let (entries, anchors, rest) ← blockEntries? handles (rest.length + 1) anchors rest
    return (← anchors.resolveAll? entries, rest)
  | .braceOpen :: rest => do
    let (entries, anchors, rest) ← braceEntries? handles (rest.length + 1) anchors rest
    return (← anchors.resolveAll? entries, rest)
  | .scalar _ _ :: _ => none
  | _ => if p.isGiven then return ([], rest) else none

/-- Reads the directives before a document. A version is given once and is 1.1 or 1.2, and every
handle is given once. -/
def directives? (versioned : Bool) (handles : TagHandles) :
    List Token → Option (TagHandles × List Token)
  | .directive (.version major minor) :: rest =>
    if versioned || major != 1 || (minor != 1 && minor != 2) then none
    else directives? true handles rest
  | .directive (.tag handle stem) :: rest =>
    if (handles.lookup handle).isSome then none
    else directives? versioned ((handle, stem) :: handles) rest
  | rest => some (handles, rest)

/-- Is a document over before these tokens? -/
def endsDocument : List Token → Bool
  | [] => true
  | .documentEnd :: _ => true
  | .documentStart :: _ => true
  | .directive _ :: _ => true
  | _ => false

/-- Reads the first document. Directives ask for a separator behind them. -/
def first? (ts : List Token) : Found :=
  match ts with
  | [] => some ([], [])
  | _ => do
    let (given, rest) ← directives? false [] ts
    let handles := given ++ Tag.standardHandles
    match rest with
    | .documentStart :: content =>
      if endsDocument content then return ([], content) else root? handles content
    | _ => if rest.length = ts.length then root? handles ts else none

/-- The entries of the only document of a text. -/
def document? (s : String) : Option (List (Scalar × Scalar)) := do
  let (entries, rest) ← first? (← tokens? s)
  if rest.all (· == .documentEnd) then return entries else none

end SwitchPlatform.Yaml
