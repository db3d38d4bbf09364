import RegistrySearch.Yaml.Node
import RegistrySearch.Yaml.ScalarValue

/-!
# What nodes stand for

The keys of a mapping are scalars. Of entries with the same key the last one counts, in the place of the first one. Under the key `<<` stands a mapping, or a sequence of mappings, whose entries come before the others, those of the last mapping first; the entries that are merged in replace the key in the node itself, so that an alias of the node, and the node itself if it is merged into itself, has them too. The key `=` is a text from the time that its mapping is looked at, wherever else it stands.

A node is valued once, and collections before their parts: first the node of the document, then what lies in it, then what lies in that. So of several faults the least deep one is reported, and the first one of those.
-/

namespace RegistrySearch

namespace Yaml

inductive NodeValue where
  | scalar (value : Scalar)
  | list (items : List NodeId)
  | map (entries : List (Scalar × NodeId))
  | set (keys : List Scalar)
  | pairs (pairs : List (NodeId × NodeId))
deriving Inhabited

/-- The nodes, what they stand for as far as that is known, and the collections whose parts are not valued, the last one first. -/
structure Valuation where
  nodes : Array Node
  values : Array (Option NodeValue)
  waiting : List NodeId := []

abbrev NodeTable := StateT Valuation Outcome

abbrev Valuing := Nesting NodeTable

namespace Valuing

def node (id : NodeId) : NodeTable Node := do
  return (← get).nodes.getD id default

def setNode (id : NodeId) (node : Node) : NodeTable Unit :=
  modify fun v => { v with nodes := v.nodes.setIfInBounds id node }

def setValue (id : NodeId) (value : NodeValue) : NodeTable Unit :=
  modify fun v => { v with values := v.values.setIfInBounds id (some value) }

def hasTag (tag : Tag) (id : NodeId) : NodeTable Bool := do
  return (← node id).tag = tag

def entriesOf (id : NodeId) : NodeTable (List (NodeId × NodeId)) := do
  match (← node id).content with
  | .mapping entries => return entries
  | _ => throw .malformed

/-! ### Merging mappings -/

/-- The entries before the first one that merges others in. The keys among them that name default values become texts. -/
def ownEntries : List (NodeId × NodeId) → NodeTable (List (NodeId × NodeId))
  | [] => return []
  | (key, value) :: rest => do
    let node ← node key
    if node.tag = .merge then return []
    if node.tag = .value then setNode key { node with tag := .str }
    return (key, value) :: (← ownEntries rest)

def dropEntry (id : NodeId) (index : Nat) : NodeTable Unit := do
  let mapping ← node id
  setNode id { mapping with content := .mapping (mapping.content.entries.eraseIdx index) }

def putBefore (id : NodeId) (merged : List (NodeId × NodeId)) : NodeTable Unit := do
  let mapping ← node id
  if !merged.isEmpty then setNode id { mapping with content := .mapping (merged ++ mapping.content.entries) }

/-- The index of the first entry of a mapping from a given one on that merges others in, with what it merges in. -/
def nextSource? (id : NodeId) (index : Nat) : NodeTable (Option (Nat × NodeId)) := do
  let entries := (← node id).content.entries
  let index := index + (← ownEntries (entries.drop index)).length
  return entries[index]?.map fun entry => (index, entry.2)

mutual

def flattenFrom (index : Nat) (merged : List (NodeId × NodeId)) (id : NodeId) : (steps : Nat) → Valuing Unit
  | 0 => throw .malformed
  | steps + 1 => do
    match ← nextSource? id index with
    | none => putBefore id merged
    | some (index, source) =>
      dropEntry id index
      flattenFrom index (merged ++ (← mergedFrom source steps)) id steps

/-- The entries of a mapping, or of a sequence of mappings with the last one first. -/
def mergedFrom (source : NodeId) : (steps : Nat) → Valuing (List (NodeId × NodeId))
  | 0 => throw .malformed
  | steps + 1 => do
    match (← node source).content with
    | .mapping _ =>
      inner (flattenFrom 0 [] source steps)
      entriesOf source
    | .sequence items =>
      let groups ← items.mapM fun item => do
        let _ ← entriesOf item
        inner (flattenFrom 0 [] item steps)
        entriesOf item
      return groups.reverse.flatten
    | .scalar _ => throw .malformed

end

/-- The number of entries that mappings have, which is more than the number of times that one is merged into another. -/
def entryCount (nodes : Array Node) : Nat :=
  nodes.toList.foldl (fun count node => count + node.content.entries.length) 0

def flatten (id : NodeId) : Valuing Unit := do
  flattenFrom 0 [] id (2 * entryCount (← get).nodes + 2)

/-! ### Scalars -/

/-- The text of a node, or the node that has it instead: a mapping with a default value stands for that. -/
def textOrDefault (id : NodeId) : NodeTable (List CodePoint ⊕ NodeId) := do
  match (← node id).content with
  | .scalar text => return .inl text
  | .sequence _ => throw .malformed
  | .mapping entries =>
    match ← entries.findM? fun entry => hasTag .value entry.1 with
    | some (_, value) => return .inr value
    | none => throw .malformed

/-- The text of a scalar. Mappings may stand for each other without an end. -/
def text (id : NodeId) : (steps : Nat) → Valuing (List CodePoint)
  | 0 => throw .tooDeep
  | steps + 1 => do
    match ← textOrDefault id with
    | .inl text => return text
    | .inr value => inner (text value steps)

def scalarWith (id : NodeId) (tag : Tag) (text : List CodePoint) : NodeTable Scalar := do
  if tag = .timestamp && (← node id).content.isMapping then throw .mappingForDate
  scalarValue tag text

def scalar (id : NodeId) (tag : Tag) : Valuing Scalar := do
  if tag ∈ [.merge, .value, .other] then throw .malformed
  else scalarWith id tag (← text id ((← get).nodes.size + 1))

/-! ### Nodes -/

/-- A collection that stands for something with parts, which are valued later. -/
def postpone (id : NodeId) (empty : NodeValue) : NodeTable NodeValue := do
  setValue id empty
  modify fun v => { v with waiting := id :: v.waiting }
  return empty

def value (id : NodeId) : Valuing NodeValue := do
  match (← get).values.getD id none with
  | some value => return value
  | none =>
    match (← node id).tag with
    | .seq => postpone id (.list [])
    | .map => postpone id (.map [])
    | .set => postpone id (.set [])
    | .pairs => postpone id (.pairs [])
    | tag =>
      let scalar ← scalar id tag
      setValue id (.scalar scalar)
      return .scalar scalar

def valueEntries (before : List (Scalar × NodeId)) : List (NodeId × NodeId) → Valuing (List (Scalar × NodeId))
  | [] => return before
  | (key, entry) :: rest => do
    match ← value key with
    | .scalar s =>
      discard (value entry)
      valueEntries (Config.update (fun _ => entry) before s) rest
    | _ => throw .malformed

def mappingEntries (id : NodeId) : Valuing (List (Scalar × NodeId)) := do
  let _ ← entriesOf id
  flatten id
  valueEntries [] (← entriesOf id)

def pair (id : NodeId) : Valuing (NodeId × NodeId) := do
  match ← entriesOf id with
  | [(key, entry)] =>
    discard (value key)
    discard (value entry)
    return (key, entry)
  | _ => throw .malformed

def complete (id : NodeId) : Valuing Unit := do
  let node ← node id
  match node.tag, node.content with
  | .seq, .sequence items =>
    items.forM fun item => discard (value item)
    setValue id (.list items)
  | .pairs, .sequence items => setValue id (.pairs (← items.mapM pair))
  | .map, _ => setValue id (.map (← mappingEntries id))
  | .set, _ => setValue id (.set ((← mappingEntries id).map (·.1)))
  | _, _ => throw .malformed

/-- The parts of collections are valued, then the parts of those. -/
def completeAll : (steps : Nat) → Valuing Unit
  | 0 => return
  | steps + 1 => do
    let waiting := (← get).waiting
    if waiting.isEmpty then return
    else
      modify fun v => { v with waiting := [] }
      waiting.reverse.forM complete
      completeAll steps

def all (graph : Graph) : Valuing Unit := do
  discard (value graph.root)
  completeAll graph.nodes.size

end Valuing

/-! ### Values in full -/

def NodeValue.over (below : Array ConfigValue) : NodeValue → ConfigValue
  | scalar value => .scalar value
  | list items => .list (items.map (below.getD · default))
  | map entries => .map (entries.map fun (key, id) => (key, below.getD id default))
  | set keys => .list (keys.map .scalar)
  | pairs items => .list (items.map fun (key, id) => .list [below.getD key default, below.getD id default])

/-- The values of nodes down to a depth. Equal parts are shared. -/
def valuesTo (values : Array NodeValue) : (depth : Nat) → Array ConfigValue
  | 0 => #[]
  | depth + 1 =>
    let below := valuesTo values depth
    values.map (·.over below)

/-- What the node of a document stands for, found with room for so many nested calls. A value that contains itself is written out to a depth. -/
def Graph.value (graph : Graph) (room depth : Nat) : Outcome ConfigValue := do
  let start : Valuation := { nodes := graph.nodes, values := graph.nodes.map fun _ => none }
  let ((), valuation) ← ((Valuing.all graph).run room).run start
  let values := valuation.values.map (·.getD default)
  let collections := graph.nodes.toList.filter fun node => match node.content with
    | .scalar _ => false
    | _ => true
  let depth := if graph.isCircular then depth else collections.length + 1
  return (valuesTo values depth).getD graph.root default

end Yaml

end RegistrySearch
