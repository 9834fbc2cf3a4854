-- The tokens of a whole document. Indentation opens and closes block collections, and a colon
-- can show that the token before it was a key: then the tokens that make it one are put in
-- front of it afterwards.
import CrossBuild.Yaml.Input
import CrossBuild.Yaml.Token

namespace CrossBuild.Yaml

/-- A token that may turn out to be a key: its number, whether it has to be one, and where
it starts. -/
structure PossibleKey where
  number : Nat
  required : Bool
  index : Nat
  line : Nat
  column : Nat

/-- What is known while a document is taken apart. -/
structure Lexer where
  cursor : Cursor
  tokens : Array Token := #[]
  /-- The column of the innermost block collection; -1 outside of all. -/
  indent : Int := -1
  /-- The columns of the collections around it, from the inside out. -/
  outerIndents : List Int := []
  /-- The possible key of the innermost brackets. -/
  possibleKey : Option PossibleKey := none
  /-- The possible keys around the brackets, from the inside out; their number is the depth
  of the brackets. -/
  outerKeys : List (Option PossibleKey) := []
  /-- Whether a key can start here. -/
  keyAllowed : Bool := true

namespace Lexer

def inFlow (s : Lexer) : Bool := !s.outerKeys.isEmpty

def emit (s : Lexer) (t : Token) : Lexer := { s with tokens := s.tokens.push t }

/-! ## Indentation -/

/-- Closes the block collections from the one at `indent` outwards, as long as they are
indented deeper than the column. -/
def closeDeeper (column indent : Int) : List Int → Lexer → Lexer
  | [], s => { s with indent, outerIndents := [] }
  | outer :: rest, s =>
    if column < indent then closeDeeper column outer rest (s.emit .blockEnd)
    else { s with indent, outerIndents := outer :: rest }

/-- Closes the block collections that are indented deeper than the column. Indentation does
not count in brackets. -/
def unwind (s : Lexer) (column : Int) : Lexer :=
  if s.inFlow then s else closeDeeper column s.indent s.outerIndents s

/-- Opens a block collection at the column unless one is open there; its token goes to the
given place. -/
def openBlock (s : Lexer) (column : Nat) (place : Nat) (t : Token) : Lexer :=
  if s.indent < column then
    { s with
      outerIndents := s.indent :: s.outerIndents
      indent := column
      tokens := s.tokens.insertIdxIfInBounds place t }
  else s

/-- Opens a block collection where the next token stands. -/
def openBlockHere (s : Lexer) (t : Token) : Lexer :=
  s.openBlock s.cursor.column s.tokens.size t

/-! ## Possible keys -/

/-- The longest distance, in characters, from a key to its colon. -/
def longestKey : Nat := 1024

/-- Whether a possible key can no longer be one: its line is over, or it is too long. -/
def isStale (c : Cursor) (k : PossibleKey) : Bool :=
  k.line ≠ c.line || c.index - k.index > longestKey

/-- Drops a possible key that is stale. -/
def dropStale (c : Cursor) : Option PossibleKey → Except Fault (Option PossibleKey)
  | none => .ok none
  | some k =>
    if !isStale c k then .ok (some k)
    else if k.required then .error .malformed
    else .ok none

/-- Drops all possible keys that are stale. -/
def dropStaleKeys (s : Lexer) : Except Fault Lexer := do
  let outerKeys ← s.outerKeys.mapM (dropStale s.cursor)
  let possibleKey ← dropStale s.cursor s.possibleKey
  return { s with outerKeys, possibleKey }

/-- Gives up the possible key of the innermost brackets. -/
def dropKey (s : Lexer) : Except Fault Lexer :=
  match s.possibleKey with
  | none => .ok s
  | some k => if k.required then .error .malformed else .ok { s with possibleKey := none }

/-- Notes that the next token may be a key. It has to be one when it starts a line of the
innermost block collection. -/
def noteKey (s : Lexer) : Except Fault Lexer :=
  if !s.keyAllowed then .ok s
  else do
    let s ← s.dropKey
    let c := s.cursor
    let required := !s.inFlow && s.indent = c.column
    return { s with possibleKey := some ⟨s.tokens.size, required, c.index, c.line, c.column⟩ }

/-! ## Tokens -/

/-- Over spaces, comments and line breaks. A key can start on a new line outside brackets. -/
def skipToToken (inFlow : Bool) (keyAllowed : Bool) (c : Cursor) : Bool × Cursor :=
  let c' := c.skipSpaces.skipComment
  match c'.takeBreak with
  | ([], _) => (keyAllowed, c')
  | (_, after) =>
    let allowed := keyAllowed || !inFlow
    if after.rest.length < c.rest.length then skipToToken inFlow allowed after
    else (allowed, after)
termination_by c.rest.length

/-- To the start of the next token. A byte order mark may start the document. -/
def toToken (s : Lexer) : Lexer :=
  let c := s.cursor
  let c := if c.index = 0 && c.next? = some byteOrderMark then c.advance else c
  let (keyAllowed, cursor) := skipToToken s.inFlow s.keyAllowed c
  { s with cursor, keyAllowed }

/-- A token of `width` characters. -/
def take (s : Lexer) (width : Nat) (t : Token) : Lexer :=
  { s with cursor := s.cursor.skip width, tokens := s.tokens.push t }

/-- A directive or a separator: it stands outside all collections. -/
def leaveBlocks (s : Lexer) : Except Fault Lexer := do
  let s ← (s.unwind (-1)).dropKey
  return { s with keyAllowed := false }

/-- An opening bracket. -/
def openFlow (s : Lexer) (t : Token) : Except Fault Lexer := do
  let s ← s.noteKey
  let s := { s with
    outerKeys := s.possibleKey :: s.outerKeys, possibleKey := none, keyAllowed := true }
  return s.take 1 t

/-- A closing bracket; one without an opening bracket can not stand anywhere. -/
def closeFlow (s : Lexer) (t : Token) : Except Fault Lexer := do
  let s ← s.dropKey
  match s.outerKeys with
  | [] => .error .malformed
  | possibleKey :: outerKeys =>
    return { s with possibleKey, outerKeys, keyAllowed := false }.take 1 t

/-- A comma in brackets. -/
def flowEntry (s : Lexer) : Except Fault Lexer := do
  let s ← s.dropKey
  return { s with keyAllowed := true }.take 1 .flowEntry

/-- A hyphen before an item. -/
def blockEntry (s : Lexer) : Except Fault Lexer := do
  if !s.inFlow && !s.keyAllowed then throw .malformed
  let s := if s.inFlow then s else s.openBlockHere .blockSequenceStart
  let s ← s.dropKey
  return { s with keyAllowed := true }.take 1 .blockEntry

/-- A question mark before a key. -/
def explicitKey (s : Lexer) : Except Fault Lexer := do
  if !s.inFlow && !s.keyAllowed then throw .malformed
  let s := if s.inFlow then s else s.openBlockHere .blockMappingStart
  let s ← s.dropKey
  return { s with keyAllowed := !s.inFlow }.take 1 .key

/-- A colon. A possible key becomes a key by it, and if it opens a mapping, the mapping
starts before the key. -/
def colon (s : Lexer) : Except Fault Lexer := do
  match s.possibleKey with
  | some k =>
    let s := { s with
      possibleKey := none
      keyAllowed := false
      tokens := s.tokens.insertIdxIfInBounds k.number .key }
    let s := if s.inFlow then s else s.openBlock k.column k.number .blockMappingStart
    return s.take 1 .value
  | none =>
    if !s.inFlow && !s.keyAllowed then throw .malformed
    let s := if s.inFlow then s else s.openBlockHere .blockMappingStart
    return { s with keyAllowed := !s.inFlow }.take 1 .value

/-- A token that may be a key, read by `read` from the cursor on. -/
def keyToken (s : Lexer) (read : Cursor → Except Fault (Token × Cursor)) : Except Fault Lexer := do
  let s ← s.noteKey
  let (t, cursor) ← read s.cursor
  return { s with cursor, keyAllowed := false }.emit t

/-- A scalar of the characters. -/
def scalarToken (cs : List Char) (plain : Bool) : Token := .scalar (cs.map .ofChar) plain

/-- A block of lines. A key can follow it. -/
def block (s : Lexer) (folded : Bool) : Except Fault Lexer := do
  let s ← s.dropKey
  let (text, cursor) ← blockScalar folded s.indent s.cursor
  return { s with cursor, keyAllowed := true }.emit (scalarToken text false)

/-- A plain scalar. A key can follow it if a line break does. -/
def plain (s : Lexer) : Except Fault Lexer := do
  let s ← s.noteKey
  let scanned := plainScalar s.inFlow (s.indent + 1) s.cursor
  return { s with cursor := scanned.after, keyAllowed := scanned.broken }.emit
    (scalarToken scanned.text true)

/-- Whether a plain scalar can start here. -/
def plainStarts (s : Lexer) (c : Char) : Bool :=
  !(isBlankOrEnd (some c) || isOneOf "-?:,[]\x7b\x7d#&*!|>'\"%@`" (some c)) ||
    (!isBlankOrEnd (s.cursor.peek? 1) && (c = '-' || (!s.inFlow && (c = '?' || c = ':'))))

/-- The token that starts with the character `c`, which the cursor is at. -/
def tokenAt (s : Lexer) (c : Char) : Except Fault Lexer := do
  let atStart := s.cursor.column = 0
  let wordEnds := isBlankOrEnd (s.cursor.peek? 1)
  if c = '%' && atStart then
    let s ← s.leaveBlocks
    let (t, cursor) ← Token.takeDirective s.cursor
    return { s with cursor }.emit t
  else if c = '-' && atStart && s.cursor.atSeparator then
    return (← s.leaveBlocks).take 3 .documentStart
  else if c = '.' && atStart && s.cursor.atSeparator then
    return (← s.leaveBlocks).take 3 .documentEnd
  else if c = '[' then s.openFlow .flowSequenceStart
  else if c = '\x7b' then s.openFlow .flowMappingStart
  else if c = ']' then s.closeFlow .flowSequenceEnd
  else if c = '\x7d' then s.closeFlow .flowMappingEnd
  else if c = ',' then s.flowEntry
  else if c = '-' && wordEnds then s.blockEntry
  else if c = '?' && (s.inFlow || wordEnds) then s.explicitKey
  else if c = ':' && (s.inFlow || wordEnds) then s.colon
  else if c = '*' then
    s.keyToken fun c => do
      let (name, after) ← Token.takeAnchorName c
      return (.alias name, after)
  else if c = '&' then
    s.keyToken fun c => do
      let (name, after) ← Token.takeAnchorName c
      return (.anchor name, after)
  else if c = '!' then s.keyToken Token.takeTag
  else if c = '|' && !s.inFlow then s.block false
  else if c = '>' && !s.inFlow then s.block true
  else if c = '\'' || c = '"' then
    s.keyToken fun cursor => do
      let (text, after) ← quotedScalar (c = '"') cursor
      return (.scalar text false, after)
  else if s.plainStarts c then s.plain
  else .error .malformed

/-- Takes the next token from the document, or closes all collections at its end. -/
def step (s : Lexer) : Except Fault Lexer := do
  let s ← s.toToken.dropStaleKeys
  let s := s.unwind s.cursor.column
  match s.cursor.next? with
  | none => (s.unwind (-1)).dropKey
  | some c => s.tokenAt c

/-- The tokens that are settled: those before the first one that may still become a key. -/
def settled (s : Lexer) : List Token :=
  let keys := (s.possibleKey :: s.outerKeys).filterMap fun k =>
    k.filter fun k => !isStale s.cursor k
  s.tokens.toList.take ((keys.map (·.number)).foldl min s.tokens.size)

end Lexer

/-- The tokens of a document as far as they can be told, and the fault that ends them. -/
structure Tokens where
  list : List Token
  fault : Option Fault := none

/-- The tokens of a document from the lexer on. The fault that ends the characters, if one
does, is met as soon as a token reaches up to it. -/
def Lexer.run (ending : Option Fault) (s : Lexer) : Tokens :=
  if ending.isSome && s.toToken.cursor.rest.isEmpty then ⟨s.settled, ending⟩
  else
    match s.step with
    | .error .unfinished => ⟨s.settled, some (ending.getD .unfinished)⟩
    | .error fault => ⟨s.settled, some fault⟩
    | .ok next =>
      if ending.isSome && next.cursor.rest.isEmpty then ⟨s.settled, ending⟩
      else if next.cursor.rest.length < s.cursor.rest.length then run ending next
      else ⟨next.tokens.toList, none⟩
termination_by s.cursor.rest.length

/-- The tokens of a document. -/
def tokens (i : Input) : Tokens :=
  Lexer.run i.fault { cursor := .ofChars i.chars }

end CrossBuild.Yaml
