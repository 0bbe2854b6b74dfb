import Docbase.Yaml.Token

/-!
# Nodes of YAML

A document is a tree of scalars, lists and mappings, each with a tag, if it has one. A reference to
an anchor stands for the node at the anchor. The tree is read from the tokens of a text, which has
to hold one document.
-/

namespace Docbase.Yaml

/-- A node. -/
inductive Node where
  /-- A scalar: its tag, its text, and whether the text decides what it stands for. -/
  | scalar (tag : Option String) (text : String) (isPlain : Bool)
  /-- A list. -/
  | list (tag : Option String) (items : List Node)
  /-- A mapping, with its keys as nodes. -/
  | mapping (tag : Option String) (pairs : List (Node × Node))

namespace Node

/-- The node where nothing is written. -/
def empty : Node :=
  .scalar none "" true

/-- What is known while the tokens of a document are read. -/
structure Progress where
  /-- The tokens that are left. -/
  tokens : List Token
  /-- What the handles of tags stand for. -/
  handles : List (String × String) := [("!", "!"), ("!!", "tag:yaml.org,2002:")]
  /-- The anchors so far with their nodes, which are missing while they are read. -/
  anchors : List (String × Option Node) := []

/-- Reading of a part of the tokens. -/
abbrev Parse (α : Type) := StateT Progress (Except Trouble) α

/-- The next token. -/
def peek : Parse (Option Token) := do
  return (← get).tokens.head?

/-- Takes the next token. -/
def drop : Parse Unit :=
  modify fun p => { p with tokens := p.tokens.drop 1 }

/-- Whether the next token is one of some. -/
def isNext (tokens : List Token) : Parse Bool := do
  return (← peek).any tokens.contains

/-- Takes the next token if it is the given one, and says whether it was. -/
def accept (token : Token) : Parse Bool := do
  if (← peek) == some token then
    drop
    return true
  else return false

/-- Takes the next token, which has to be the given one. -/
def expect (token : Token) : Parse Unit := do
  if !(← accept token) then refuse

/-- Takes an anchor, if one comes next. -/
def takeAnchor? : Parse (Option String) := do
  match ← peek with
  | some (.anchor name) =>
    drop
    return some name
  | _ => return none

/-- Takes a tag, if one comes next, with its handle written out. -/
def takeTag? : Parse (Option String) := do
  match ← peek with
  | some (.tag none text) =>
    drop
    return some text
  | some (.tag (some handle) text) =>
    drop
    match (← get).handles.lookup handle with
    | some start => return some (start ++ text)
    | none => refuse
  | _ => return none

/-- Takes the anchor and the tag of a node, in either order. -/
def takeProperties : Parse (Option String × Option String) := do
  match ← takeAnchor? with
  | some anchor => return (some anchor, ← takeTag?)
  | none =>
    let tag ← takeTag?
    if tag.isSome then return (← takeAnchor?, tag) else return (none, none)

/-- Notes an anchor, which must be new, with its node. -/
def note (anchor : Option String) (node : Option Node) : Parse Unit := do
  match anchor with
  | some name => modify fun p => { p with anchors := (name, node) :: p.anchors }
  | none => return ()

/-- The node at an anchor. One that is still being read is taken for an empty list. -/
def ofAnchor (name : String) : Parse Node := do
  match (← get).anchors.lookup name with
  | some node => return node.getD (.list none [])
  | none => refuse

/-- The scalar of a token; an exclamation mark for a tag lets the text decide. -/
def ofScalar (tag : Option String) (text : String) (isPlain : Bool) : Node :=
  if tag = some "!" then .scalar none text true
  else .scalar tag text (isPlain && tag.isNone)

/-- A tag without the exclamation mark that says nothing. -/
def ownTag (tag : Option String) : Option String :=
  if tag = some "!" then none else tag

mutual

/-- Reads a node; a list without an indentation of its own may stand where `bare` says so, and
indented collections where `block` does. -/
def read : Nat → Bool → Bool → Parse Node
  | 0, _, _ => refuse
  | bound + 1, block, bare => do
    match ← peek with
    | some (.alias name) =>
      drop
      ofAnchor name
    | _ =>
      let (anchor, tag) ← takeProperties
      let known := (← get).anchors
      if anchor.any fun name => (known.lookup name).isSome then refuse
      note anchor none
      let node ← readContent bound block bare (anchor.isSome || tag.isSome) tag
      note anchor (some node)
      return node

/-- Reads what a node is made of; with properties in front of it, it may be empty. -/
def readContent : Nat → Bool → Bool → Bool → Option String → Parse Node
  | 0, _, _, _, _ => refuse
  | bound + 1, block, bare, mayBeEmpty, tag => do
    match ← peek, block with
    | some .entry, _ =>
      if bare then return .list (ownTag tag) (← readBareItems bound)
      else if mayBeEmpty then return ofScalar tag "" tag.isNone
      else refuse
    | some (.scalar text isPlain), _ =>
      drop
      return ofScalar tag text isPlain
    | some .openBracket, _ =>
      drop
      return .list (ownTag tag) (← readFlowItems bound true)
    | some .openBrace, _ =>
      drop
      return .mapping (ownTag tag) (← readFlowPairs bound true)
    | some .listStart, true =>
      drop
      return .list (ownTag tag) (← readItems bound)
    | some .mappingStart, true =>
      drop
      return .mapping (ownTag tag) (← readPairs bound)
    | _, _ => if mayBeEmpty then return ofScalar tag "" tag.isNone else refuse

/-- Reads a node unless one of some tokens comes next, where it is empty. -/
def readUnless : Nat → Bool → Bool → List Token → Parse Node
  | 0, _, _, _ => refuse
  | bound + 1, block, bare, enders => do
    if ← isNext enders then return empty else read bound block bare

/-- Reads the items of an indented list. -/
def readItems : Nat → Parse (List Node)
  | 0 => refuse
  | bound + 1 => do
    if ← accept .entry then
      let item ← readUnless bound true false [.entry, .blockEnd]
      return item :: (← readItems bound)
    else
      expect .blockEnd
      return []

/-- Reads the items of a list without an indentation of its own. -/
def readBareItems : Nat → Parse (List Node)
  | 0 => refuse
  | bound + 1 => do
    if ← accept .entry then
      let item ← readUnless bound true false [.entry, .key, .value, .blockEnd]
      return item :: (← readBareItems bound)
    else return []

/-- Reads the pairs of an indented mapping. -/
def readPairs : Nat → Parse (List (Node × Node))
  | 0 => refuse
  | bound + 1 => do
    if ← accept .key then
      let enders : List Token := [.key, .value, .blockEnd]
      let key ← readUnless bound true true enders
      let value ← readValue bound true enders
      return (key, value) :: (← readPairs bound)
    else
      expect .blockEnd
      return []

/-- Reads the value of a key, which is empty without a colon. -/
def readValue : Nat → Bool → List Token → Parse Node
  | 0, _, _ => refuse
  | bound + 1, block, enders => do
    if ← accept .value then readUnless bound block block enders else return empty

/-- Reads the items of a list in brackets. A key among them makes a mapping of one pair. -/
def readFlowItems : Nat → Bool → Parse (List Node)
  | 0, _ => refuse
  | bound + 1, isFirst => do
    if ← accept .closeBracket then return []
    if !isFirst then expect .comma
    if ← accept .closeBracket then return []
    let item ← readFlowItem bound
    return item :: (← readFlowItems bound false)

/-- Reads an item of a list in brackets. -/
def readFlowItem : Nat → Parse Node
  | 0 => refuse
  | bound + 1 => do
    if ← accept .key then
      let key ← readUnless bound false false [.value, .comma, .closeBracket]
      let value ← readValue bound false [.comma, .closeBracket]
      return .mapping none [(key, value)]
    else read bound false false

/-- Reads the pairs of a mapping in braces. -/
def readFlowPairs : Nat → Bool → Parse (List (Node × Node))
  | 0, _ => refuse
  | bound + 1, isFirst => do
    if ← accept .closeBrace then return []
    if !isFirst then expect .comma
    if ← accept .closeBrace then return []
    let pair ← readFlowPair bound
    return pair :: (← readFlowPairs bound false)

/-- Reads a pair of a mapping in braces; without a mark for a key, the value is empty. -/
def readFlowPair : Nat → Parse (Node × Node)
  | 0 => refuse
  | bound + 1 => do
    if ← accept .key then
      let key ← readUnless bound false false [.value, .comma, .closeBrace]
      return (key, ← readValue bound false [.comma, .closeBrace])
    else return (← read bound false false, empty)

end

/-- Takes the directives of a document: whether its version was given, and its handles. -/
def takeDirectives : Nat → Bool → List (String × String) → Parse (List (String × String))
  | 0, _, _ => refuse
  | bound + 1, versioned, handles => do
    match ← peek with
    | some (.directive "YAML" (major :: _)) =>
      drop
      if versioned || major != "1" then refuse
      takeDirectives bound true handles
    | some (.directive "TAG" [handle, text]) =>
      drop
      if (handles.lookup handle).isSome then refuse
      takeDirectives bound versioned ((handle, text) :: handles)
    | some (.directive _ _) =>
      drop
      takeDirectives bound versioned handles
    | _ => return handles

/-- Takes the marks at the end of a document. -/
def takeEnds : Nat → Parse Unit
  | 0 => return ()
  | bound + 1 => do
    if ← accept .documentEnd then takeEnds bound

/-- Reads the only document, if there is one. -/
def readDocument (bound : Nat) : Parse (Option Node) := do
  match ← peek with
  | none => return none
  | some .documentStart => explicit
  | some (.directive _ _) => explicit
  | some _ =>
    let node ← read bound true false
    finish
    return some node
where
  /-- Reads a document that begins with a mark. -/
  explicit : Parse (Option Node) := do
    let handles ← takeDirectives bound false []
    modify fun p => { p with handles := handles ++ p.handles }
    expect .documentStart
    let node ← match ← peek with
      | none => pure empty
      | some .documentStart => pure empty
      | some .documentEnd => pure empty
      | some (.directive _ _) => pure empty
      | some _ => read bound true false
    finish
    return some node
  /-- Makes sure that nothing follows. -/
  finish : Parse Unit := do
    takeEnds bound
    if (← peek).isSome then refuse

/-- The only document of a text, if there is one. -/
def ofText (text : String) : Reading (Option Node) := do
  let tokens ← Token.ofText text
  return (← (readDocument (4 * tokens.length + 4)).run { tokens }).1

end Node

end Docbase.Yaml
