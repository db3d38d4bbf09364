import RegistrySearch.Yaml.ScalarText
import RegistrySearch.Yaml.TagText

/-!
# The tokens of a YAML text

A text is a sequence of scalars, tags, names of anchors, directives, and marks. Blocks have no brackets of their own: a block starts where something stands further to the right than the block around it, and ends where something stands further to the left, so the marks for that are found from columns.

A key before a colon has no mark in front either. Wherever a key may start, the place is remembered as a candidate; when the colon comes, the marks of the key, and of the block of keys that it may open, are put in at that place. A candidate is given up when its line ends, or 1024 characters after it.

So a token is only settled once no mark can be put in before it any more. If the text breaks off with a fault, what comes before the fault is the tokens that were settled by then, and a reader of tokens may find a fault of its own in them first.
-/

namespace RegistrySearch

namespace Yaml

inductive Token where
  | directive (directive : Directive)
  | documentStart
  | documentEnd
  | blockSequenceStart
  | blockMappingStart
  | blockEnd
  | flowSequenceStart
  | flowSequenceEnd
  | flowMappingStart
  | flowMappingEnd
  | blockEntry
  | flowEntry
  | key
  | value
  | alias (name : String)
  | anchor (name : String)
  | tag (text : TagText)
  | scalar (text : List CodePoint) (plain : Bool)
deriving DecidableEq, Repr

/-- The tokens of a text, up to a fault if there is one. -/
structure Tokens where
  settled : List Token
  fault : Option DocumentFault
deriving DecidableEq, Repr

/-- A place where a key may have started. -/
structure Candidate where
  depth : Nat
  position : Nat
  /-- Nothing but a key can stand there. -/
  required : Bool
  index : Nat
  line : Nat
  column : Nat
deriving Repr

/-- A place in a text, the tokens before it that are not settled, and what is open there. -/
structure TokenState where
  cursor : Cursor
  /-- The number of tokens that are settled. -/
  settled : Nat := 0
  pending : List Token := []
  ended : Bool := false
  depth : Nat := 0
  /-- The column of the innermost block. -/
  indent : Int := -1
  outer : List Int := []
  mayStartKey : Bool := true
  /-- At most one candidate for each depth of brackets. -/
  candidates : List Candidate := []

namespace TokenState

def inFlow (s : TokenState) : Bool := s.depth ≠ 0

def push (s : TokenState) (token : Token) : TokenState :=
  { s with pending := s.pending ++ [token] }

def position (s : TokenState) : Nat := s.settled + s.pending.length

def insert (s : TokenState) (position : Nat) (token : Token) : TokenState :=
  { s with pending := s.pending.insertIdx (position - s.settled) token }

def take (s : TokenState) (token : Token) (after : Cursor) (mayStartKey : Bool) : TokenState :=
  { s.push token with cursor := after, mayStartKey }

def mark (s : TokenState) (length : Nat) (token : Token) (mayStartKey : Bool) : TokenState :=
  s.take token (s.cursor.forward length) mayStartKey

/-! ### Candidates for keys -/

def candidate? (s : TokenState) : Option Candidate :=
  s.candidates.find? fun k => k.depth = s.depth

def withoutCandidate (s : TokenState) : TokenState :=
  { s with candidates := s.candidates.filter fun k => k.depth ≠ s.depth }

/-- The candidate at this depth of brackets is given up, unless a key is required there. -/
def dropCandidate (s : TokenState) : Outcome TokenState :=
  if s.candidate?.any (·.required) then .error .malformed else .ok s.withoutCandidate

def noteCandidate (s : TokenState) : Outcome TokenState := do
  if !s.mayStartKey then return s
  let s ← s.dropCandidate
  let here := s.cursor
  return { s with candidates :=
    { depth := s.depth, position := s.position, required := !s.inFlow && s.indent = here.column, index := here.index
      line := here.line, column := here.column } :: s.candidates }

/-- Candidates on an earlier line or too far back are given up, unless a key is required there. -/
def dropStale (s : TokenState) : Outcome TokenState :=
  let isStale (k : Candidate) : Bool := k.line ≠ s.cursor.line || 1024 < s.cursor.index - k.index
  if s.candidates.any fun k => isStale k && k.required then .error .malformed
  else .ok { s with candidates := s.candidates.filter fun k => !isStale k }

def isUnsettled (s : TokenState) : Bool :=
  s.candidates.any fun k => k.position = s.settled

/-! ### Blocks -/

/-- A block opens at a column if that is further to the right than the block around it. The mark of the block is put in at a position among the tokens. -/
def openBlock (s : TokenState) (column : Nat) (position : Nat) (token : Token) : TokenState :=
  if s.inFlow || (column : Int) ≤ s.indent then s
  else { s.insert position token with indent := column, outer := s.indent :: s.outer }

def closeBlocksOf (column : Int) : (outer : List Int) → TokenState → TokenState
  | [], s => s
  | indent :: outer, s =>
    if column < s.indent then closeBlocksOf column outer { s.push .blockEnd with indent := indent, outer := outer }
    else s

/-- The blocks that are further to the right than a column end. Inside brackets columns mean nothing. -/
def closeBlocks (s : TokenState) (column : Int) : TokenState :=
  if s.inFlow then s else closeBlocksOf column s.outer s

/-! ### Single tokens -/

/-- A mark between documents, or a directive, ends all that is open. -/
def endAll (s : TokenState) : Outcome TokenState :=
  (s.closeBlocks (-1)).dropCandidate

def documentMark (s : TokenState) (token : Token) : Outcome TokenState := do
  return (← s.endAll).mark 3 token false

def directiveLine (s : TokenState) : Outcome TokenState := do
  let s ← s.endAll
  let (directive, after) ← directive s.cursor.next
  return s.take (.directive directive) after false

def openBracket (s : TokenState) (token : Token) : Outcome TokenState := do
  let s ← s.noteCandidate
  return { s.mark 1 token true with depth := s.depth + 1 }

def closeBracket (s : TokenState) (token : Token) : Outcome TokenState := do
  if !s.inFlow then throw .malformed
  let s ← s.dropCandidate
  return { s.mark 1 token false with depth := s.depth - 1 }

def flowComma (s : TokenState) : Outcome TokenState := do
  return (← s.dropCandidate).mark 1 .flowEntry true

def dash (s : TokenState) : Outcome TokenState := do
  if !s.inFlow && !s.mayStartKey then throw .malformed
  let s ← (s.openBlock s.cursor.column s.position .blockSequenceStart).dropCandidate
  return s.mark 1 .blockEntry true

def questionMark (s : TokenState) : Outcome TokenState := do
  if !s.inFlow && !s.mayStartKey then throw .malformed
  let s ← (s.openBlock s.cursor.column s.position .blockMappingStart).dropCandidate
  return s.mark 1 .key !s.inFlow

/-- A colon makes the candidate a key. Without one it gives a value to the key that a question mark announced, or to an empty one. -/
def colon (s : TokenState) : Outcome TokenState :=
  match s.candidate? with
  | some k =>
    let s := (s.insert k.position .key).openBlock k.column k.position .blockMappingStart
    .ok (s.withoutCandidate.mark 1 .value false)
  | none =>
    if !s.inFlow && !s.mayStartKey then .error .malformed
    else .ok ((s.openBlock s.cursor.column s.position .blockMappingStart).mark 1 .value !s.inFlow)

def name (s : TokenState) (token : String → Token) : Outcome TokenState := do
  let s ← s.noteCandidate
  let start := s.cursor.next
  let name := start.run isNameCharacter
  let after := start.skip isNameCharacter
  if name.isEmpty then throw .malformed
  if isSpaceOrEnd after.peek? || after.peek?.any (· ∈ ['?', ':', ',', ']', '\x7d', '%', '@', '\x60']) then
    return s.take (token (String.ofList name)) after false
  else throw .malformed

def tagged (s : TokenState) : Outcome TokenState := do
  let s ← s.noteCandidate
  let (tag, after) ← orMalformed (tagText s.cursor)
  return s.take (.tag tag) after false

def quoted (s : TokenState) (double : Bool) : Outcome TokenState := do
  let s ← s.noteCandidate
  let (text, after) ← quotedScalar double s.cursor
  return s.take (.scalar text false) after false

def block (s : TokenState) (isFolded : Bool) : Outcome TokenState := do
  if s.inFlow then throw .malformed
  let s ← s.dropCandidate
  let (text, after) ← orMalformed (blockScalar isFolded s.indent s.cursor)
  return s.take (.scalar (CodePoint.ofChars text) false) after true

/-- A plain scalar. After it a key may start only on a new line. -/
def plain (s : TokenState) : Outcome TokenState := do
  let s ← s.noteCandidate
  let (text, crossed, after) := plainScalar s.inFlow (s.indent + 1).toNat s.cursor
  return s.take (.scalar (CodePoint.ofChars text) true) after crossed

/-! ### The whole text -/

def nextPlace : (steps : Nat) → Cursor → Cursor × Bool
  | 0, c => (c, false)
  | steps + 1, c =>
    let c := c.skip (· = ' ')
    let c := if c.peek? = some '#' then c.skip fun ch => !isBreak ch else c
    match c.lineBreak? with
    | none => (c, false)
    | some (_, c) => ((nextPlace steps c).1, true)

def settle (s : TokenState) : Outcome TokenState := do
  let c := s.cursor
  let start := if c.index = 0 && c.peek? = some byteOrderMark then c.next else c
  let (here, crossed) := nextPlace (c.rest.length + 1) start
  let s ← dropStale { s with cursor := here, mayStartKey := s.mayStartKey || (crossed && !s.inFlow) }
  return s.closeBlocks here.column

def token (s : TokenState) (first : Char) : Outcome TokenState :=
  let c := s.cursor
  let apart := isSpaceOrEnd (c.peekAt? 1)
  if c.column = 0 && first = '%' then s.directiveLine
  else if c.column = 0 && c.isSeparator '-' then s.documentMark .documentStart
  else if c.column = 0 && c.isSeparator '.' then s.documentMark .documentEnd
  else match first with
    | '[' => s.openBracket .flowSequenceStart
    | ']' => s.closeBracket .flowSequenceEnd
    | '\x7b' => s.openBracket .flowMappingStart
    | '\x7d' => s.closeBracket .flowMappingEnd
    | ',' => s.flowComma
    | '-' => if apart then s.dash else s.plain
    | '?' => if apart || s.inFlow then s.questionMark else s.plain
    | ':' => if apart || s.inFlow then s.colon else s.plain
    | '*' => s.name .alias
    | '&' => s.name .anchor
    | '!' => s.tagged
    | '|' => s.block false
    | '>' => s.block true
    | '\'' => s.quoted false
    | '"' => s.quoted true
    | _ => if isBlank first ∨ first ∈ ['#', '%', '@', '\x60'] then .error .malformed else s.plain

def advance (s : TokenState) : Outcome TokenState := do
  let s ← s.settle
  match s.cursor.peek? with
  | some first => s.token first
  | none => return { ← s.endAll with ended := true }

def settledToken? (s : TokenState) : Outcome (Option (Token × TokenState)) := do
  match s.pending with
  | [] => return none
  | token :: rest =>
    let s ← if s.ended then pure s else s.dropStale
    if !s.ended && s.isUnsettled then return none
    return some (token, { s with settled := s.settled + 1, pending := rest })

/-- The tokens from this state on. A token is looked at when it is wanted: only if it is not settled yet, the text is read further. -/
def tokens : (steps : Nat) → TokenState → Tokens
  | 0, _ => ⟨[], some .malformed⟩
  | steps + 1, s =>
    match s.settledToken? with
    | .error fault => ⟨[], some fault⟩
    | .ok (some (token, s)) =>
      let others := tokens steps s
      { others with settled := token :: others.settled }
    | .ok none =>
      if s.ended then ⟨[], none⟩
      else match s.advance with
        | .ok s => tokens steps s
        | .error fault => ⟨[], some fault⟩

end TokenState

/-- The tokens of a text. Every character gives at most three tokens and an end. -/
def Tokens.ofText (text : List Char) : Tokens :=
  TokenState.tokens (5 * text.length + 8) { cursor := { rest := text } }

end Yaml

end RegistrySearch
