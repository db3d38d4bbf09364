import RegistrySearch.Number.Digit
import RegistrySearch.Yaml.Cursor
import RegistrySearch.Yaml.Fault

/-!
# The text of scalars

The four ways to write a text in YAML: plain, in single quotes, in double quotes, and as a block of indented lines. A single line break inside a scalar counts as a space and further ones as themselves, except in literal blocks. Each reader returns the text and the place after it, or nothing if the scalar is not well formed. In double quotes an escape may name any code point, and one that names none is a fault of its own.
-/

namespace RegistrySearch

namespace Yaml

def folded (first : Char) (others : List Char) : List Char :=
  if first ≠ '\n' then first :: others
  else if others.isEmpty then [' '] else others

/-! ### Quoted scalars -/

/-- The empty lines inside a quoted scalar, with the indentation of the line after them; a document mark must not stand at the start of a line. -/
def quotedBreaks : (steps : Nat) → Cursor → Option (List Char × Cursor)
  | 0, _ => none
  | steps + 1, c =>
    if c.isDocumentMark then none
    else
      let c := c.skip isBlank
      match c.lineBreak? with
      | none => some ([], c)
      | some (b, c) => do
        let (others, c) ← quotedBreaks steps c
        return (b :: others, c)

/-- White space inside a quoted scalar: as it is within a line, folded across lines. -/
def quotedSpace (steps : Nat) (c : Cursor) : Option (List Char × Cursor) :=
  let blanks := c.run isBlank
  let after := c.skip isBlank
  match after.lineBreak? with
  | some (first, c) => do
    let (others, c) ← quotedBreaks steps c
    return (folded first others, c)
  | none => if after.rest.isEmpty then none else some (blanks, after)

def shortEscape? : Char → Option Char
  | '0' => some '\x00'
  | 'a' => some '\x07'
  | 'b' => some '\x08'
  | 't' => some '\t'
  | '\t' => some '\t'
  | 'n' => some '\n'
  | 'v' => some '\x0b'
  | 'f' => some '\x0c'
  | 'r' => some '\r'
  | 'e' => some '\x1b'
  | ' ' => some ' '
  | '"' => some '"'
  | '\\' => some '\\'
  | '/' => some '/'
  | 'N' => some '\x85'
  | '_' => some '\xa0'
  | 'L' => some '\u2028'
  | 'P' => some '\u2029'
  | _ => none

def escapeLength? : Char → Option Nat
  | 'x' => some 2
  | 'u' => some 4
  | 'U' => some 8
  | _ => none

/-- The escape after a backslash: what it stands for, and the place after it. An escaped line break joins lines. -/
def escape (steps : Nat) (c : Cursor) : Outcome (List CodePoint × Cursor) :=
  match c.peek? with
  | none => .error .malformed
  | some ch =>
    match shortEscape? ch with
    | some value => .ok ([.char value], c.next)
    | none =>
      match escapeLength? ch with
      | some n =>
        let digits := c.next.rest.take n
        let code := Digit.number 16 digits
        if digits.length = n ∧ digits.all (Digit.value? · |>.isSome) then
          match CodePoint.ofNumber? code with
          | some point => .ok ([point], c.next.forward n)
          | none => .error (.codePoint code)
        else .error .malformed
      | none =>
        match c.lineBreak? with
        | some (_, c) => (orMalformed (quotedBreaks steps c)).map fun (text, c) => (CodePoint.ofChars text, c)
        | none => .error .malformed

def quotedRest (double : Bool) : (steps : Nat) → Cursor → Outcome (List CodePoint × Cursor)
  | 0, _ => .error .malformed
  | steps + 1, c =>
    let quote := if double then '"' else '\''
    let go (part : List CodePoint × Cursor) : Outcome (List CodePoint × Cursor) := do
      let (others, c) ← quotedRest double steps part.2
      return (part.1 ++ others, c)
    match c.peek? with
    | none => .error .malformed
    | some ch =>
      if ch = quote then
        if !double && c.peekAt? 1 = some quote then go ([.char quote], c.forward 2)
        else .ok ([], c.next)
      else if double && ch = '\\' then (escape steps c.next).bind go
      else if isBlank ch || isBreak ch then
        ((orMalformed (quotedSpace steps c)).map fun (text, c) => (CodePoint.ofChars text, c)).bind go
      else go ([.char ch], c.next)

def quotedScalar (double : Bool) (c : Cursor) : Outcome (List CodePoint × Cursor) :=
  quotedRest double (c.rest.length + 1) c.next

/-! ### Plain scalars -/

/-- A plain scalar ends here: at white space, at a colon before it, and inside brackets also at the brackets' marks. -/
def endsPlain (inFlow : Bool) (c : Cursor) : Bool :=
  match c.peek? with
  | none => true
  | some ch =>
    isBlank ch || isBreak ch ||
      (ch = ':' && (isSpaceOrEnd (c.peekAt? 1) || (inFlow && (c.peekAt? 1).any (· ∈ [',', '[', ']', '\x7b', '\x7d'])))) ||
      (inFlow && ch ∈ [',', '?', '[', ']', '\x7b', '\x7d'])

def plainRun (inFlow : Bool) : (steps : Nat) → Cursor → List Char × Cursor
  | 0, c => ([], c)
  | steps + 1, c =>
    if endsPlain inFlow c then ([], c)
    else
      let (others, after) := plainRun inFlow steps c.next
      (c.rest.take 1 ++ others, after)

/-- The spaces and empty lines before the next line of a plain scalar. Nothing if a document mark comes first. -/
def plainBreaks : (steps : Nat) → Cursor → Option (List Char) × Cursor
  | 0, c => (some [], c)
  | steps + 1, c =>
    if c.peek? = some ' ' then plainBreaks steps c.next
    else match c.lineBreak? with
      | none => (some [], c)
      | some (b, c) =>
        if c.isDocumentMark then (none, c)
        else
          let (others, c) := plainBreaks steps c
          (others.map (b :: ·), c)

/-- White space after a part of a plain scalar: what it reads as if the scalar goes on, whether it crosses lines, and the place after it. -/
def plainSpace (steps : Nat) (c : Cursor) : List Char × Bool × Cursor :=
  let blanks := c.run (· = ' ')
  let after := c.skip (· = ' ')
  match after.lineBreak? with
  | none => (blanks, false, after)
  | some (first, c) =>
    if c.isDocumentMark then ([], true, c)
    else match plainBreaks steps c with
      | (none, c) => ([], true, c)
      | (some others, c) => (folded first others, true, c)

/-- The parts of a plain scalar from this place on. It goes on after white space unless a comment starts or, outside of brackets, the line is not indented enough. The flag says whether the white space after the last part crosses lines. -/
def plainParts (inFlow : Bool) (indent : Nat) : (steps : Nat) → (space : List Char) → (crossed : Bool) → Cursor →
    List Char × Bool × Cursor
  | 0, _, crossed, c => ([], crossed, c)
  | steps + 1, space, crossed, c =>
    if c.peek? = some '#' then ([], crossed, c)
    else
      let (part, after) := plainRun inFlow c.rest.length c
      if part.isEmpty then ([], crossed, c)
      else
        let (nextSpace, crossed, c) := plainSpace c.rest.length after
        if nextSpace.isEmpty || c.peek? = some '#' || (!inFlow && c.column < indent) then
          (space ++ part, crossed, c)
        else
          let (others, crossed, c) := plainParts inFlow indent steps nextSpace crossed c
          (space ++ part ++ others, crossed, c)

def plainScalar (inFlow : Bool) (indent : Nat) (c : Cursor) : List Char × Bool × Cursor :=
  plainParts inFlow indent (c.rest.length + 1) [] false c

/-! ### Block scalars -/

/-- What the header of a block scalar says: whether the line breaks at the end are kept or dropped, and by how much the lines are indented. -/
structure BlockHeader where
  keep : Option Bool := none
  indent : Option Nat := none

def blockHeader? (c : Cursor) : Option (BlockHeader × Cursor) :=
  let sign? (c : Cursor) : Option Bool × Cursor := match c.peek? with
    | some '+' => (some true, c.next)
    | some '-' => (some false, c.next)
    | _ => (none, c)
  let digit? (c : Cursor) : Option Nat × Cursor := match c.peek? with
    | some ch => if Digit.isDecimal ch then (Digit.value? ch, c.next) else (none, c)
    | none => (none, c)
  let (header, c) : BlockHeader × Cursor := match sign? c with
    | (some keep, c) =>
      let (digit, c) := digit? c
      (⟨some keep, digit⟩, c)
    | (none, c) =>
      match digit? c with
      | (some digit, c) =>
        let (keep, c) := sign? c
        (⟨keep, some digit⟩, c)
      | (none, c) => (⟨none, none⟩, c)
  if header.indent = some 0 then none
  else if c.peek? = some ' ' || isBreakOrEnd c.peek? then some (header, c) else none

def headerLine? (c : Cursor) : Option Cursor :=
  let c := c.skip (· = ' ')
  let c := if c.peek? = some '#' then c.skip fun ch => !isBreak ch else c
  if c.rest.isEmpty then some c
  else c.lineBreak?.map (·.2)

/-- The empty lines before the first line of a block scalar, and the greatest indentation among them and that line. -/
def leadingLines : (steps : Nat) → Nat → Cursor → List Char × Nat × Cursor
  | 0, widest, c => ([], widest, c)
  | steps + 1, widest, c =>
    if c.peek? = some ' ' then leadingLines steps (max widest c.next.column) c.next
    else match c.lineBreak? with
      | none => ([], widest, c)
      | some (b, c) =>
        let (others, widest, c) := leadingLines steps widest c
        (b :: others, widest, c)

def skipIndent (indent : Nat) (c : Cursor) : Cursor :=
  c.forward (min (indent - c.column) (c.run (· = ' ')).length)

def blockBreaks (indent : Nat) : (steps : Nat) → Cursor → List Char × Cursor
  | 0, c => ([], c)
  | steps + 1, c =>
    let c := skipIndent indent c
    match c.lineBreak? with
    | none => ([], c)
    | some (b, c) =>
      let (others, c) := blockBreaks indent steps c
      (b :: others, c)

/-- The lines of a block scalar from a line on, with the empty lines before it. In a folded block a line break between two lines that do not start with white space reads as a space, or as nothing before empty lines. The end of the block is chomped as the header says. -/
def blockLines (isFolded : Bool) (keep : Option Bool) (indent : Nat) : (steps : Nat) → (breaks : List Char) →
    Cursor → List Char × Cursor
  | 0, breaks, c => (breaks, c)
  | steps + 1, breaks, c =>
    let startsBlank := c.peek?.any isBlank
    let line := c.run fun ch => !isBreak ch
    let c := c.skip fun ch => !isBreak ch
    let (lineBreak, c) := match c.lineBreak? with
      | some (b, c) => ([b], c)
      | none => ([], c)
    let (others, c) := blockBreaks indent c.rest.length.succ c
    if c.column = indent && !c.rest.isEmpty then
      let joint :=
        if isFolded && lineBreak = ['\n'] && !startsBlank && !(c.peek?.any isBlank) then
          if others.isEmpty then [' '] else []
        else lineBreak
      let (more, c) := blockLines isFolded keep indent steps others c
      (breaks ++ line ++ joint ++ more, c)
    else
      let ending := match keep with
        | some true => lineBreak ++ others
        | some false => []
        | none => lineBreak
      (breaks ++ line ++ ending, c)

def blockScalar (isFolded : Bool) (parentIndent : Int) (c : Cursor) : Option (List Char × Cursor) := do
  let (header, c) ← blockHeader? c.next
  let c ← headerLine? c
  let least := (max (parentIndent + 1) 1).toNat
  let (breaks, indent, c) := match header.indent with
    | none =>
      let (breaks, widest, c) := leadingLines (c.rest.length + 1) 0 c
      (breaks, max least widest, c)
    | some extra =>
      let indent := least + extra - 1
      let (breaks, c) := blockBreaks indent (c.rest.length + 1) c
      (breaks, indent, c)
  if c.column = indent && !c.rest.isEmpty then
    return blockLines isFolded header.keep indent (c.rest.length + 1) breaks c
  else
    return (if header.keep = some true then breaks else [], c)

end Yaml

end RegistrySearch
