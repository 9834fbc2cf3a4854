-- The value that a document describes. The collections are numbered in the order in which they
-- are found, and they are filled in that order, so a collection is filled after all that stand
-- around it, and of several faults the first one in that order counts.
import CrossBuild.Document
import CrossBuild.Yaml.Merge
import CrossBuild.Yaml.Numeral

namespace CrossBuild.Yaml

/-! ## Scalars -/

/-- The text of a node where a scalar is wanted: its own, or the one under the key that stands
for the whole mapping. A search that comes back to a node never ends. -/
def Graph.scalarText (g : Graph) : Nat → Nat → Except Fault (List Text.CodePoint)
  | 0, _ => .error .tooDeep
  | fuel + 1, number =>
    match g.node number with
    | .scalar _ text => .ok text
    | .mapping _ entries =>
      match entries.find? fun (key, _) => g.tag key = .value with
      | some (_, value) => g.scalarText fuel value
      | none => .error .malformed
    | .sequence _ _ => .error .malformed

/-- The value of a scalar of the given kind. -/
def scalarValue (node : Nat) (tag : Tag) (text : List Text.CodePoint) : Except Fault Value :=
  let chars := text.map Text.CodePoint.toChar
  match tag with
  | .null => .ok .null
  | .truth => .truth <$> Numeral.truth (String.ofList chars)
  | .whole => .whole <$> Numeral.whole chars
  | .float => Numeral.float node chars
  | .binary => .bytes <$> Numeral.binary chars
  | .timestamp => Numeral.timestamp chars
  | .text => .ok (.text text)
  | _ => .error .malformed

/-! ## Collections -/

/-- What is known while the collections of a document are filled. -/
structure Filling where
  graph : Graph
  /-- The values of the nodes that have been found, by the numbers of the nodes. -/
  values : Array (Option Value)
  /-- The nodes of the collections that have been found, by the numbers of the collections. -/
  found : Array Nat := #[]

/-- A step in the filling of collections. -/
abbrev Filler := StateT Filling (Except Fault)

namespace Filler

/-- The number of a collection that has not been found before. -/
def numberOf (node : Nat) : Filler Value := do
  let number := (← get).found.size
  modify fun s => { s with found := s.found.push node }
  return .collection number

/-- The value of a node where it is found first. -/
def newValue (node : Nat) : Filler Value := do
  let g := (← get).graph
  match g.tag node with
  | .merge | .value | .unknown => throw .malformed
  | tag =>
    if tag.isCollection then numberOf node
    else
      let text ← g.scalarText (g.size + 1) node
      match tag, g.node node with
      | .timestamp, .mapping _ _ => throw .mappedTime
      | _, _ => scalarValue node tag text

/-- The value of a node, which is the same wherever the node stands. -/
def valueOf (node : Nat) : Filler Value := do
  match ((← get).values[node]?).join with
  | some v => return v
  | none =>
    let v ← newValue node
    modify fun s => { s with values := s.values.setIfInBounds node (some v) }
    return v

/-- The pair that a mapping of one entry is. -/
def pairOf (node : Nat) : Filler (Value × Value) := do
  match (← get).graph.node node with
  | .mapping _ [(key, value)] => return (← valueOf key, ← valueOf value)
  | _ => throw .malformed

/-- An entry of a mapping, whose key must not be a collection. -/
def entryOf (entry : Nat × Nat) : Filler (Value × Value) := do
  let key ← valueOf entry.1
  if !key.isKey then throw .malformed
  return (key, ← valueOf entry.2)

/-- The entries of a mapping, with those that merge keys bring in. -/
def entriesOf (reach node : Nat) : Filler (List (Value × Value)) := do
  let s ← get
  let ((), graph) ← (Graph.flatten reach node).run s.graph
  set { s with graph }
  return Value.collect (← (graph.node node).entries.mapM entryOf)

/-- The collection that a node is. -/
def collectionOf (reach node : Nat) : Filler Collection := do
  match (← get).graph.node node with
  | .sequence .list items => return .list (← items.mapM valueOf)
  | .sequence .orderedMapping items => return .pairs (← items.mapM pairOf)
  | .sequence .pairs items => return .pairs (← items.mapM pairOf)
  | .mapping .mapping _ => return .mapping (← entriesOf reach node)
  | .mapping .set _ => return .set ((← entriesOf reach node).map (·.1))
  | _ => throw .malformed

/-- The document of a root node. There are not more collections than nodes. -/
def document (reach nodes root : Nat) : Filler Document := do
  let value ← valueOf root
  let collections ← (List.range nodes).foldlM (fun done number => do
    match (← get).found[number]? with
    | some node => return done.push (← collectionOf reach node)
    | none => return done) #[]
  return ⟨value, collections⟩

end Filler

/-- What a document in UTF-8 holds; an empty one holds null. -/
def load (content : ByteArray) : Except Fault Document := do
  match ← Graph.ofTokens (tokens (.ofBytes content)) with
  | (_, none) => return ⟨.null, #[]⟩
  | (graph, some root) =>
    let start : Filling := { graph, values := Array.replicate graph.size none }
    let (d, _) ← (Filler.document graph.reach graph.size root).run start
    return d

end CrossBuild.Yaml
