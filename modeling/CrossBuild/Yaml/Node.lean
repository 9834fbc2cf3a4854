-- The graph of nodes that the tokens of a document describe. The nodes are numbered, and an
-- alias is the number of the node that it names, so that a node can stand in several places,
-- also inside itself. The tokens are taken one by one, and a fault in the document counts only
-- when reading gets to it.
import CrossBuild.Yaml.Lexer
import CrossBuild.Yaml.Tag

namespace CrossBuild.Yaml

/-- A node, with the numbers of the nodes in it. -/
inductive Node where
  | scalar (tag : Tag) (text : List Text.CodePoint)
  | sequence (tag : Tag) (items : List Nat)
  | mapping (tag : Tag) (entries : List (Nat × Nat))

namespace Node

def tag : Node → Tag
  | scalar tag _ => tag
  | sequence tag _ => tag
  | mapping tag _ => tag

/-- The node as one of another kind. -/
def withTag (tag : Tag) : Node → Node
  | scalar _ text => scalar tag text
  | sequence _ items => sequence tag items
  | mapping _ entries => mapping tag entries

/-- The entries of a mapping; other nodes have none. -/
def entries : Node → List (Nat × Nat)
  | mapping _ entries => entries
  | _ => []

/-- A scalar of which nothing is written. -/
def empty : Node := .scalar .null []

end Node

/-- The nodes of a document by their numbers. -/
abbrev Graph := Array Node

namespace Graph

/-- The node of a number. -/
def node (g : Graph) (number : Nat) : Node := (g[number]?).getD .empty

/-- The graph with a node in the place of the one of that number. -/
def replace (g : Graph) (number : Nat) (node : Node) : Graph := g.setIfInBounds number node

/-- The kind of the node of a number. -/
def tag (g : Graph) (number : Nat) : Tag := (g.node number).tag

end Graph

/-- What is left of the tokens, and what has been read from those before. -/
structure Reading where
  tokens : Tokens
  nodes : Graph := (#[] : Array Node)
  /-- The nodes that the names in the document stand for. -/
  anchors : List (String × Nat) := []
  /-- The starts of URIs that the handles of tags stand for. -/
  handles : List (String × String) := []
  /-- The number of collections that are being read. -/
  depth : Nat := 0

/-- Reading of a part of a document. -/
abbrev Reader := StateT Reading (Except Fault)

namespace Reader

/-! ## Tokens -/

/-- The next token, if the document goes on. -/
def next? : Reader (Option Token) := do
  match (← get).tokens with
  | ⟨t :: _, _⟩ => return some t
  | ⟨[], some fault⟩ => throw fault
  | ⟨[], none⟩ => return none

/-- Past the tokens up to the first one that fails `p`. -/
def dropWhile (p : Token → Bool) : Reader Unit :=
  modify fun s => { s with tokens.list := s.tokens.list.dropWhile p }

/-- Past the next token. -/
def drop : Reader Unit := modify fun s => { s with tokens.list := s.tokens.list.tail }

/-- Past the next token if it is the given one. -/
def accept (t : Token) : Reader Bool := do
  if (← next?) = some t then
    drop
    return true
  else return false

/-- Past the next token, which has to be the given one. -/
def expect (t : Token) : Reader Unit := do
  if !(← accept t) then throw .malformed

/-- Whether the next token is one of those given. -/
def nextIsOneOf (ts : List Token) : Reader Bool := do
  return (← next?).any ts.contains

/-! ## Properties of nodes -/

/-- An anchor, if one is written here. -/
def anchor? : Reader (Option String) := do
  match ← next? with
  | some (.anchor name) =>
    drop
    return some name
  | _ => return none

/-- The handle and the suffix of a tag, if one is written here. -/
def tag? : Reader (Option (Option String × String)) := do
  match ← next? with
  | some (.tag handle suffix) =>
    drop
    return some (handle, suffix)
  | _ => return none

/-- The URI of a tag. A lone exclamation mark stands for itself. -/
def uriOf : Option String × String → Reader String
  | (none, suffix) => return suffix
  | (some handle, suffix) => do
    match (← get).handles.lookup handle with
    | some start => return start ++ suffix
    | none => throw .malformed

/-- An anchor and the URI of a tag, in either order. -/
def properties : Reader (Option String × Option String) := do
  match ← anchor? with
  | some name => return (some name, ← (← tag?).mapM uriOf)
  | none =>
    let tag ← tag?
    let anchor ← if tag.isSome then anchor? else pure none
    return (anchor, ← tag.mapM uriOf)

/-- The kind of a scalar. A tag that is a lone exclamation mark lets the form decide, also
for a scalar in quotes. -/
def scalarTag (tag : Option String) (plain : Bool) (text : List Text.CodePoint) : Tag :=
  let form := Tag.ofForm (text.map Text.CodePoint.toChar)
  match tag with
  | none => if plain then form else .text
  | some "!" => form
  | some uri => .ofUri uri

/-- The kind of a collection. -/
def collectionTag (tag : Option String) (usual : Tag) : Tag :=
  match tag with
  | none => usual
  | some "!" => usual
  | some uri => .ofUri uri

/-! ## Nodes

The readers call one another. Each call has one unit of fuel less than its caller; as every
third call takes a token at least, a multiple of the number of tokens is enough. -/

/-- The most collections that a node can stand in. -/
def deepest : Nat := 485

/-- A new node, by its number. -/
def add (node : Node) : Reader Nat := do
  let number := (← get).nodes.size
  modify fun s => { s with nodes := s.nodes.push node }
  return number

/-- Gives a node a name. -/
def name (anchor : Option String) (number : Nat) : Reader Unit :=
  match anchor with
  | none => return
  | some name => modify fun s => { s with anchors := (name, number) :: s.anchors }

/-- A scalar under a name. -/
def scalar (anchor : Option String) (tag : Tag) (text : List Text.CodePoint) : Reader Nat := do
  let number ← add (.scalar tag text)
  name anchor number
  return number

/-- A collection under a name, which stands for it already while its parts are read. -/
def collection (anchor : Option String) (parts : Reader Node) : Reader Nat := do
  let number ← add .empty
  name anchor number
  modify fun s => { s with depth := s.depth + 1 }
  let node ← parts
  modify fun s => { s with depth := s.depth - 1, nodes := s.nodes.replace number node }
  return number

/-- Refuses what stands in too many collections. -/
def checkDepth : Reader Unit := do
  if deepest < (← get).depth then throw .tooDeep

mutual

/-- A node. Block collections can stand here if `block`, and a sequence whose items are not
indented if `unindented`. -/
def read (block unindented : Bool) : Nat → Reader Nat
  | 0 => throw .malformed
  | fuel + 1 => do
    checkDepth
    if let some (.alias name) ← next? then
      drop
      match (← get).anchors.lookup name with
      | some number => return number
      | none => throw .malformed
    let (anchor, tag) ← properties
    let next ← next?
    if let some name := anchor then
      if ((← get).anchors.lookup name).isSome then throw .malformed
    let sequence (items : Reader (List Nat)) : Reader Nat :=
      collection anchor do return .sequence (collectionTag tag .list) (← items)
    let mapping (entries : Reader (List (Nat × Nat))) : Reader Nat :=
      collection anchor do return .mapping (collectionTag tag .mapping) (← entries)
    match next with
    | some (.scalar text plain) =>
      drop
      scalar anchor (scalarTag tag plain text) text
    | some .flowSequenceStart => sequence do drop; readFlowItems true fuel
    | some .flowMappingStart => mapping do drop; readFlowEntries true fuel
    | other =>
      if unindented ∧ other = some .blockEntry then
        sequence (readUnindentedItems fuel)
      else if block ∧ other = some .blockSequenceStart then
        sequence do drop; readBlockItems fuel
      else if block ∧ other = some .blockMappingStart then
        mapping do drop; readBlockEntries fuel
      else if anchor.isSome ∨ tag.isSome then scalar anchor (scalarTag tag tag.isNone []) []
      else throw .malformed

/-- The items of a block sequence, up to its end. -/
def readBlockItems : Nat → Reader (List Nat)
  | 0 => throw .malformed
  | fuel + 1 => do
    if ← accept .blockEntry then
      let item ←
        if ← nextIsOneOf [.blockEntry, .blockEnd] then add .empty else read true false fuel
      return item :: (← readBlockItems fuel)
    else
      expect .blockEnd
      return []

/-- The items of a sequence that is not indented. -/
def readUnindentedItems : Nat → Reader (List Nat)
  | 0 => throw .malformed
  | fuel + 1 => do
    if ← accept .blockEntry then
      let item ←
        if ← nextIsOneOf [.blockEntry, .key, .value, .blockEnd] then add .empty
        else read true false fuel
      return item :: (← readUnindentedItems fuel)
    else return []

/-- The entries of a block mapping, up to its end. -/
def readBlockEntries : Nat → Reader (List (Nat × Nat))
  | 0 => throw .malformed
  | fuel + 1 => do
    if ← accept .key then
      let key ←
        if ← nextIsOneOf [.key, .value, .blockEnd] then add .empty else read true true fuel
      let value ←
        if ← accept .value then
          if ← nextIsOneOf [.key, .value, .blockEnd] then add .empty
          else read true true fuel
        else add .empty
      return (key, value) :: (← readBlockEntries fuel)
    else
      expect .blockEnd
      return []

/-- The items of a sequence in brackets, up to its end. A key among them makes a mapping of
one entry. -/
def readFlowItems (first : Bool) : Nat → Reader (List Nat)
  | 0 => throw .malformed
  | fuel + 1 => do
    if ← accept .flowSequenceEnd then return []
    if !first then expect .flowEntry
    if ← accept .flowSequenceEnd then return []
    let item ←
      if ← accept .key then
        checkDepth
        collection none do
          let key ←
            if ← nextIsOneOf [.value, .flowEntry, .flowSequenceEnd] then add .empty
            else read false false fuel
          let value ←
            if ← accept .value then
              if ← nextIsOneOf [.flowEntry, .flowSequenceEnd] then add .empty
              else read false false fuel
            else add .empty
          return .mapping .mapping [(key, value)]
      else read false false fuel
    return item :: (← readFlowItems false fuel)

/-- The entries of a mapping in braces, up to its end. -/
def readFlowEntries (first : Bool) : Nat → Reader (List (Nat × Nat))
  | 0 => throw .malformed
  | fuel + 1 => do
    if ← accept .flowMappingEnd then return []
    if !first then expect .flowEntry
    if ← accept .flowMappingEnd then return []
    let entry ←
      if ← accept .key then do
        let key ←
          if ← nextIsOneOf [.value, .flowEntry, .flowMappingEnd] then add .empty
          else read false false fuel
        let value ←
          if ← accept .value then
            if ← nextIsOneOf [.flowEntry, .flowMappingEnd] then add .empty
            else read false false fuel
          else add .empty
        pure (key, value)
      else
        pure (← read false false fuel, ← add .empty)
    return entry :: (← readFlowEntries false fuel)

end

/-! ## Documents -/

/-- The handles of tags that every document has. -/
def usualHandles : List (String × String) := [("!", "!"), ("!!", Tag.uriStart)]

def isDirective : Token → Bool
  | .versionDirective _ | .tagDirective _ _ | .otherDirective => true
  | _ => false

/-- What directives say of the handles of tags. At most one directive gives a version, which
has to be 1, and at most one speaks of each handle. -/
def handlesOf (versioned : Bool) (handles : List (String × String)) :
    List Token → Except Fault (List (String × String))
  | .versionDirective major :: rest =>
    if versioned ∨ major ≠ 1 then .error .malformed else handlesOf true handles rest
  | .tagDirective handle uri :: rest =>
    if (handles.lookup handle).isSome then .error .malformed
    else handlesOf versioned ((handle, uri) :: handles) rest
  | _ :: rest => handlesOf versioned handles rest
  | [] => .ok (handles ++ usualHandles)

/-- The directives before a document and the line that starts it. -/
def start : Reader Unit := do
  let handles ← handlesOf false [] ((← get).tokens.list.takeWhile isDirective)
  modify fun s => { s with handles }
  dropWhile isDirective
  expect .documentStart

/-- The root node, from the tokens behind the start of a document on. -/
def root (explicit : Bool) : Reader Nat := do
  let next ← next?
  if explicit && next.all fun t => isDirective t || t = .documentStart || t = .documentEnd then
    add .empty
  else
    let fuel := 4 * (← get).tokens.list.length + 4
    read true false fuel

/-- The end of the only document. -/
def finish : Reader Unit := do
  dropWhile (· = .documentEnd)
  if (← next?).isSome then
    start
    throw .malformed

/-- The root node of the only document, if there is one. -/
def document : Reader (Option Nat) := do
  match ← next? with
  | none => return none
  | some first =>
    let explicit := isDirective first || first = .documentStart
    if explicit then start else modify fun s => { s with handles := usualHandles }
    let number ← root explicit
    finish
    return some number

end Reader

/-- The nodes that tokens describe and the number of the root among them, if there is
one. -/
def Graph.ofTokens (tokens : Tokens) : Except Fault (Graph × Option Nat) := do
  let (root, s) ← Reader.document.run { tokens }
  return (s.nodes, root)

end CrossBuild.Yaml
