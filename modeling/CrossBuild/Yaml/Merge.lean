-- Merge keys: the entries of other mappings that a mapping takes in. The entries of the mapping
-- itself stay behind those that it takes in, so that they count more.
import CrossBuild.Yaml.Node

namespace CrossBuild.Yaml.Graph

/-- A change of the nodes of a document. -/
abbrev Merging := StateT Graph (Except Fault)

/-- The value of the first merge key among entries, and the entries without it. -/
def takeMergeKey? (g : Graph) : List (Nat × Nat) → Option (Nat × List (Nat × Nat))
  | [] => none
  | (key, value) :: rest =>
    if g.tag key = .merge then some (value, rest)
    else (takeMergeKey? g rest).map fun (taken, others) => (taken, (key, value) :: others)

/-- The nodes where the keys of entries that stand for a whole mapping are texts. -/
def nameValueKeys (g : Graph) (entries : List (Nat × Nat)) : Graph :=
  entries.foldl (fun g (key, _) =>
    if g.tag key = .value then g.replace key ((g.node key).withTag .text) else g) g

/-- The nodes with other entries in the mapping of that number. -/
def setEntries (g : Graph) (number : Nat) (entries : List (Nat × Nat)) : Graph :=
  g.replace number (.mapping (g.tag number) entries)

/-! Every merge key is removed before it is followed, so the merge keys of the document bound how
deep the calls can go, also where mappings take in each other. -/

mutual

/-- Replaces the merge keys of a mapping by the entries that they bring in. -/
def flatten : Nat → Nat → Merging Unit
  | 0, _ => return
  | fuel + 1, number => do
    let merged ← mergedEntries fuel number
    modify fun g => g.nameValueKeys (g.node number).entries
    if !merged.isEmpty then
      modify fun g => g.setEntries number (merged ++ (g.node number).entries)

/-- Removes the merge keys of a mapping and gives the entries that they bring in. -/
def mergedEntries : Nat → Nat → Merging (List (Nat × Nat))
  | 0, _ => return []
  | fuel + 1, number => do
    let g ← get
    match g.takeMergeKey? (g.node number).entries with
    | none => return []
    | some (source, others) =>
      modify fun g => g.setEntries number others
      let first ← entriesFrom fuel source
      return first ++ (← mergedEntries fuel number)

/-- The entries that a merge key brings in: those of a mapping, or of a list of mappings, of
which the earlier ones count more. -/
def entriesFrom : Nat → Nat → Merging (List (Nat × Nat))
  | 0, _ => return []
  | fuel + 1, source => do
    match (← get).node source with
    | .mapping _ _ =>
      flatten fuel source
      return ((← get).node source).entries
    | .sequence _ items =>
      let parts ← items.mapM fun item => do
        match (← get).node item with
        | .mapping _ _ =>
          flatten fuel item
          return ((← get).node item).entries
        | _ => throw .malformed
      return parts.reverse.flatten
    | .scalar _ _ => throw .malformed

end

/-- How far merge keys can lead on. -/
def reach (g : Graph) : Nat := 3 * (g.foldl (fun n node => n + node.entries.length) 0) + 3

end CrossBuild.Yaml.Graph
