import RegistrySearch.Yaml.Tag
import RegistrySearch.Yaml.Token

/-!
# The nodes of a YAML document

A document is one node with the nodes inside of it: scalars, sequences and mappings, each with its tag. A node may have an anchor, and an alias stands for the node with that anchor, which has to come first but need not be complete. So nodes are kept in a table and refer to each other by their places in it: two places may hold the same node, and a node may lie inside of itself. Where nothing is written the node is an empty scalar.
-/

namespace RegistrySearch

namespace Yaml

abbrev NodeId := Nat

inductive Content where
  | scalar (text : List CodePoint)
  | sequence (items : List NodeId)
  | mapping (entries : List (NodeId × NodeId))
deriving Repr, Inhabited

structure Node where
  tag : Tag
  content : Content
deriving Repr, Inhabited

def Node.empty : Node := ⟨.null, .scalar []⟩

structure Graph where
  nodes : Array Node
  root : NodeId
  /-- A node may lie inside of itself. -/
  isCircular : Bool

namespace Content

def isMapping : Content → Bool
  | mapping _ => true
  | _ => false

def entries : Content → List (NodeId × NodeId)
  | mapping entries => entries
  | _ => []

end Content

def defaultHandles : List (String × String) := [("!", "!"), ("!!", Tag.standard)]

structure NodeState where
  tokens : Tokens
  handles : List (String × String) := defaultHandles
  nodes : Array Node := #[]
  anchors : List (String × NodeId) := []
  incomplete : List NodeId := []
  isCircular : Bool := false

abbrev TokenReader := StateT NodeState Outcome

/-- A reader of nodes, whose calls are nested as the nodes are. -/
abbrev NodeReader := Nesting TokenReader

namespace NodeReader

def next? : TokenReader (Option Token) := do
  let tokens := (← get).tokens
  match tokens.settled, tokens.fault with
  | token :: _, _ => return some token
  | [], some fault => throw fault
  | [], none => return none

/-- The next token is one of these, or there is none. -/
def endsAt (marks : List Token) : TokenReader Bool := do
  match ← next? with
  | none => return true
  | some token => return token ∈ marks

def drop : TokenReader Unit :=
  modify fun s => { s with tokens := { s.tokens with settled := s.tokens.settled.tail } }

def accept (token : Token) : TokenReader Bool := do
  if (← next?) = some token then
    drop
    return true
  else return false

def expect (token : Token) : TokenReader Unit := do
  if !(← accept token) then throw .malformed

/-! ### The table -/

def add (node : Node) : TokenReader NodeId := do
  let id := (← get).nodes.size
  modify fun s => { s with nodes := s.nodes.push node }
  return id

def addEmpty : NodeReader NodeId :=
  inner (add .empty)

def remember (anchor : Option String) (id : NodeId) : TokenReader Unit := do
  if let some name := anchor then
    modify fun s => { s with anchors := (name, id) :: s.anchors }

/-- A collection, which has its place in the table before its parts are read. -/
def collection (anchor : Option String) (tag : Tag) (content : NodeReader Content) : NodeReader NodeId := inner do
  let id ← add ⟨tag, .sequence []⟩
  remember anchor id
  modify fun s => { s with incomplete := id :: s.incomplete }
  let content ← content
  modify fun s => { s with nodes := s.nodes.setIfInBounds id ⟨tag, content⟩, incomplete := s.incomplete.tail }
  return id

/-- A node, which is empty if one of these tokens is next. -/
def orEmpty (marks : List Token) (node : NodeReader NodeId) : NodeReader NodeId := do
  if ← endsAt marks then addEmpty else node

def valueOf (marks : List Token) (node : NodeReader NodeId) : NodeReader NodeId := do
  if ← accept .value then orEmpty marks node else addEmpty

/-! ### Properties of nodes -/

def aliased (name : String) : TokenReader NodeId := do
  match (← get).anchors.lookup name with
  | some id =>
    modify fun s => { s with isCircular := s.isCircular || id ∈ s.incomplete }
    return id
  | none => throw .malformed

def alias? : TokenReader (Option String) := do
  match ← next? with
  | some (.alias name) =>
    drop
    return some name
  | _ => return none

def properties : TokenReader (Option String × Option TagText) := do
  match ← next? with
  | some (.anchor name) =>
    drop
    match ← next? with
    | some (.tag tag) =>
      drop
      return (some name, some tag)
    | _ => return (some name, none)
  | some (.tag tag) =>
    drop
    match ← next? with
    | some (.anchor name) =>
      drop
      return (some name, some tag)
    | _ => return (none, some tag)
  | _ => return (none, none)

def fullTag (tag : TagText) : TokenReader String := do
  match tag.handle with
  | none => return tag.suffix
  | some handle =>
    match (← get).handles.lookup handle with
    | some start => return start ++ tag.suffix
    | none => throw .malformed

def propertiesInFull : TokenReader (Option String × Option String) := do
  let (anchor, tag) ← properties
  return (anchor, ← tag.mapM fullTag)

/-- The name of an anchor may be given once only. -/
def checkAnchor (anchor : Option String) : TokenReader Unit := do
  if let some name := anchor then
    if ((← get).anchors.lookup name).isSome then throw .malformed

/-- The tag of a node: the one that is written, unless that says nothing. -/
def tagOr (default : Tag) (tag : Option String) : Tag :=
  match tag with
  | none | some "!" => default
  | some text => .ofText text

/-- The tag of a scalar. Without quotes, or with a tag that says nothing, it is found from the form of the text. -/
def scalarTag (text : List CodePoint) (plain : Bool) (tag : Option String) : Tag :=
  match tag with
  | none => if plain then .ofForm text else .str
  | some _ => tagOr (.ofForm text) tag

/-! ### Nodes -/

def scalar (anchor tag : Option String) (text : List CodePoint) (plain : Bool) : TokenReader NodeId := do
  checkAnchor anchor
  let id ← add ⟨scalarTag text plain tag, .scalar text⟩
  remember anchor id
  return id

def filled (anchor tag : Option String) (text : List CodePoint) (plain : Bool) : TokenReader NodeId := do
  drop
  scalar anchor tag text plain

def opened (anchor tag : Option String) (default : Tag) (content : NodeReader Content) : NodeReader NodeId := do
  checkAnchor anchor
  drop
  collection anchor (tagOr default tag) content

/-- An empty node. It needs an anchor or a tag. -/
def emptyWith (anchor tag : Option String) : TokenReader NodeId := do
  if anchor.isNone && tag.isNone then throw .malformed
  scalar anchor tag [] true

/-- Whether a collection in brackets ends here, whose parts have commas between them. The closing bracket is taken. -/
def flowEnds (bracket : Token) (first : Bool) : TokenReader Bool := do
  if ← accept bracket then return true
  else if first then return false
  else
    expect .flowEntry
    accept bracket

/-- An item of a sequence in brackets. It may be a mapping of one key without brackets of its own. -/
def flowItem (node : NodeReader NodeId) : NodeReader NodeId := do
  if ← accept .key then
    inner <| collection none .map do
      let key ← orEmpty [.value, .flowEntry, .flowSequenceEnd] node
      let value ← valueOf [.flowEntry, .flowSequenceEnd] node
      return .mapping [(key, value)]
  else node

/-- An entry of a mapping in brackets. A key may stand without a value. -/
def flowEntry (node : NodeReader NodeId) : NodeReader (NodeId × NodeId) := do
  if ← accept .key then
    let key ← orEmpty [.value, .flowEntry, .flowMappingEnd] node
    let value ← valueOf [.flowEntry, .flowMappingEnd] node
    return (key, value)
  else
    let key ← node
    return (key, ← addEmpty)

mutual

/-- A node. Blocks may stand where `blocks` holds, and entries of a sequence that is not indented further than its key where `entries` holds. -/
def node (blocks entries : Bool) : (steps : Nat) → NodeReader NodeId
  | 0 => throw .malformed
  | steps + 1 => inner do
    match ← alias? with
    | some name => aliased name
    | none =>
      let (anchor, tag) ← propertiesInFull
      match ← next? with
      | some (.scalar text plain) => filled anchor tag text plain
      | some .flowSequenceStart => opened anchor tag .seq (.sequence <$> flowItems true steps)
      | some .flowMappingStart => opened anchor tag .map (.mapping <$> flowEntries true steps)
      | some .blockSequenceStart =>
        if blocks then opened anchor tag .seq (.sequence <$> blockItems steps) else emptyWith anchor tag
      | some .blockMappingStart =>
        if blocks then opened anchor tag .map (.mapping <$> blockEntries steps) else emptyWith anchor tag
      | some .blockEntry =>
        if entries then
          checkAnchor anchor
          collection anchor (tagOr .seq tag) (.sequence <$> plainItems steps)
        else emptyWith anchor tag
      | _ => emptyWith anchor tag

def blockItems : (steps : Nat) → NodeReader (List NodeId)
  | 0 => throw .malformed
  | steps + 1 => do
    if ← accept .blockEntry then
      let item ← orEmpty [.blockEntry, .blockEnd] (node true false steps)
      return item :: (← blockItems steps)
    else
      expect .blockEnd
      return []

/-- The items of a sequence that is not indented further than its key. -/
def plainItems : (steps : Nat) → NodeReader (List NodeId)
  | 0 => throw .malformed
  | steps + 1 => do
    if ← accept .blockEntry then
      let item ← orEmpty [.blockEntry, .key, .value, .blockEnd] (node true false steps)
      return item :: (← plainItems steps)
    else return []

def blockEntries : (steps : Nat) → NodeReader (List (NodeId × NodeId))
  | 0 => throw .malformed
  | steps + 1 => do
    if ← accept .key then
      let marks : List Token := [.key, .value, .blockEnd]
      let key ← orEmpty marks (node true true steps)
      let value ← valueOf marks (node true true steps)
      return (key, value) :: (← blockEntries steps)
    else
      expect .blockEnd
      return []

def flowItems (first : Bool) : (steps : Nat) → NodeReader (List NodeId)
  | 0 => throw .malformed
  | steps + 1 => do
    if ← flowEnds .flowSequenceEnd first then return []
    else
      let item ← flowItem (node false false steps)
      return item :: (← flowItems false steps)

def flowEntries (first : Bool) : (steps : Nat) → NodeReader (List (NodeId × NodeId))
  | 0 => throw .malformed
  | steps + 1 => do
    if ← flowEnds .flowMappingEnd first then return []
    else
      let entry ← flowEntry (node false false steps)
      return entry :: (← flowEntries false steps)

end

/-! ### Documents -/

/-- The directives at this place: the version of YAML may be given once and has to be the first one, and a handle may be given once. -/
def directives : (steps : Nat) → (version : Bool) → (handles : List (String × String)) →
    TokenReader (List (String × String))
  | 0, _, _ => throw .malformed
  | steps + 1, version, handles => do
    match ← next? with
    | some (.directive directive) =>
      drop
      match directive with
      | .version major _ =>
        if version || major ≠ 1 then throw .malformed
        directives steps true handles
      | .handle name start =>
        if (handles.lookup name).isSome then throw .malformed
        directives steps version ((name, start) :: handles)
      | .unknown => directives steps version handles
    | _ => return handles

def documentEnds : (steps : Nat) → TokenReader Unit
  | 0 => throw .malformed
  | steps + 1 => do
    if ← accept .documentEnd then documentEnds steps

def documentHead (steps : Nat) : TokenReader Unit := do
  let handles ← directives steps false []
  expect .documentStart
  modify fun s => { s with handles := handles ++ defaultHandles }

/-- A node with a start mark in front of it, after which there may be nothing. -/
def marked (node : NodeReader NodeId) (steps : Nat) : NodeReader NodeId := do
  documentHead steps
  match ← next? with
  | some (.directive _) => addEmpty
  | _ => orEmpty [.documentStart, .documentEnd] node

def root (steps : Nat) : NodeReader NodeId := do
  match ← next? with
  | none => add .empty
  | some .documentStart | some (.directive _) => marked (node true false steps) steps
  | _ => node true false steps

/-- The end of the one document of a text. Behind it there may be marks for its end, but no other document. -/
def noMore (steps : Nat) : TokenReader Unit := do
  documentEnds steps
  if (← next?).isSome then
    documentHead steps
    throw .malformed

def document (steps : Nat) : NodeReader NodeId := do
  let root ← root steps
  noMore steps
  return root

end NodeReader

/-- The nodes of the one document that the tokens of a text are, read with room for so many nested calls. -/
def Graph.ofTokens (room : Nat) (tokens : Tokens) : Outcome Graph := do
  let (root, after) ← ((NodeReader.document (2 * tokens.settled.length + 2)).run room).run { tokens }
  return { nodes := after.nodes, root, isCircular := after.isCircular }

end Yaml

end RegistrySearch
