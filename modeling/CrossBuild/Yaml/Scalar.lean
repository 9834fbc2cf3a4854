-- The texts of scalars: plain ones, quoted ones, and blocks of lines.
import CrossBuild.Text.CodePoint
import CrossBuild.Text.Digit
import CrossBuild.Yaml.Cursor

namespace CrossBuild.Yaml

/-! ## Plain scalars -/

/-- The characters of a plain scalar up to the first one that can not be in it: a blank, a
colon that a blank follows, and in brackets the characters that structure them. -/
def plainRun (inFlow : Bool) : List Char → List Char
  | [] => []
  | c :: cs =>
    let colonEnds := c = ':' &&
      (isBlankOrEnd cs.head? || (inFlow && isOneOf ",[]\x7b\x7d" cs.head?))
    if isBlankOrEnd (some c) || colonEnds || (inFlow && isOneOf ",?[]\x7b\x7d" (some c)) then []
    else c :: plainRun inFlow cs

/-- What stands between two runs of a plain scalar. -/
structure PlainGap where
  /-- What the gap stands for in the text; nothing if a separator ends the scalar. -/
  text : Option (List Char)
  /-- Whether the gap has a line break in it. -/
  broken : Bool
  after : Cursor

/-- The gap after a run of a plain scalar. -/
def plainGap (c : Cursor) : PlainGap :=
  let (spaces, c) := c.span (· = ' ')
  match c.takeBreak with
  | ([], _) => ⟨some spaces, false, c⟩
  | (first, after) =>
    match after.followingBreaks (· = ' ') with
    | none => ⟨none, true, after⟩
    | some (following, last) => ⟨some (foldBreaks first following), true, last⟩

/-- A scalar that has been read: its text, whether it ends behind a line break, and the
place after it. -/
structure Scanned where
  text : List Char
  broken : Bool
  after : Cursor

/-- The runs of a plain scalar and the gaps between them, after a gap. The lines of a
scalar outside brackets are indented by `indent` columns at least. -/
def plainRuns (inFlow : Bool) (indent : Int) (gap : List Char) (broken : Bool) (c : Cursor) :
    Scanned :=
  let run := plainRun inFlow c.rest
  if c.next? = some '#' || run.isEmpty then ⟨[], broken, c⟩
  else
    let next := plainGap (c.skip run.length)
    let text := gap ++ run
    match next.text with
    | none => ⟨text, true, next.after⟩
    | some [] => ⟨text, next.broken, next.after⟩
    | some space =>
      if next.after.next? = some '#' || (!inFlow && next.after.column < indent) then
        ⟨text, next.broken, next.after⟩
      else if next.after.rest.length < c.rest.length then
        let more := plainRuns inFlow indent space next.broken next.after
        { more with text := text ++ more.text }
      else ⟨text, next.broken, next.after⟩
termination_by c.rest.length

/-- A plain scalar. -/
def plainScalar (inFlow : Bool) (indent : Int) (c : Cursor) : Scanned :=
  plainRuns inFlow indent [] false c

/-! ## Quoted scalars -/

/-- The escapes of a single letter, and what each stands for. -/
def escapes : List (Char × Nat) := [
  ('0', 0), ('a', 7), ('b', 8), ('t', 9), ('\t', 9), ('n', 10), ('v', 11), ('f', 12), ('r', 13),
  ('e', 27), (' ', 32), ('"', 34), ('\\', 92), ('/', 47), ('N', 0x85), ('_', 0xa0),
  ('L', 0x2028), ('P', 0x2029)]

/-- The escapes by code, and the number of hexadecimal digits that each takes. -/
def codeEscapes : List (Char × Nat) := [('x', 2), ('u', 4), ('U', 8)]

/-- A code of `width` hexadecimal digits. -/
def takeCode (width : Nat) (c : Cursor) : Except Fault (Nat × Cursor) :=
  let digits := (c.rest.take width).takeWhile fun d => (Text.hexValue? d).isSome
  let after := c.skip digits.length
  if digits.length = width then .ok (Text.numeral 16 digits, after) else .error after.flaw

/-- The largest code that is a number of a machine word, and the largest one of a character. -/
def largestWord : Nat := 0x7fffffff

def largestCode : Nat := 0x10ffff

/-- The code point of a code. -/
def codePointOf (code : Nat) : Except Fault Text.CodePoint :=
  if largestWord < code then .error .tooLarge
  else if largestCode < code then .error .outOfRange
  else .ok ⟨code⟩

def isTabOrSpace (c : Char) : Bool := c = ' ' || c = '\t'

/-- What an escape stands for, from the character after the backslash on. -/
def takeEscape (c : Cursor) : Except Fault (List Text.CodePoint × Cursor) :=
  match c.next? with
  | none => .error .unfinished
  | some letter =>
    match escapes.lookup letter, codeEscapes.lookup letter with
    | some code, _ => .ok ([⟨code⟩], c.advance)
    | none, some width => do
      let (code, after) ← takeCode width c.advance
      return ([← codePointOf code], after)
    | none, none =>
      if !isBreak letter then .error .malformed
      else
        match c.takeBreak.2.followingBreaks isTabOrSpace with
        | some (taken, after) => .ok (taken.map .ofChar, after)
        | none => .error .malformed

/-- A character of a quoted scalar that stands for itself in quotes of either kind. -/
def isPlainInQuotes (c : Char) : Bool :=
  !(c = '\'' || c = '"' || c = '\\' || isTabOrSpace c || isBreak c)

/-- The characters of a quoted scalar up to a blank, the end, or the closing quote. -/
def quotedRun (double : Bool) (c : Cursor) : Except Fault (List Text.CodePoint × Cursor) := do
  let (run, c') := c.span isPlainInQuotes
  let run := run.map Text.CodePoint.ofChar
  let single (ch : Char) (after : Cursor) : Option (List Text.CodePoint × Cursor) :=
    some ([.ofChar ch], after)
  let step : Option (List Text.CodePoint × Cursor) ←
    match c'.rest with
    | '\'' :: '\'' :: _ =>
      pure (if double then single '\'' c'.advance else single '\'' (c'.skip 2))
    | '\'' :: _ => pure (if double then single '\'' c'.advance else none)
    | '"' :: _ => pure (if double then none else single '"' c'.advance)
    | '\\' :: _ =>
      if double then some <$> takeEscape c'.advance else pure (single '\\' c'.advance)
    | _ => pure none
  match step with
  | none => return (run, c')
  | some (taken, after) =>
    if after.rest.length < c.rest.length then
      let (more, last) ← quotedRun double after
      return (run ++ taken ++ more, last)
    else return (run ++ taken, after)
termination_by c.rest.length

/-- The blanks and line breaks between two runs of a quoted scalar. -/
def quotedGap (c : Cursor) : Except Fault (List Char × Cursor) :=
  let (blanks, c) := c.span isTabOrSpace
  match c.next? with
  | none => .error .unfinished
  | some ch =>
    if !isBreak ch then .ok (blanks, c)
    else
      let (first, after) := c.takeBreak
      match after.followingBreaks isTabOrSpace with
      | none => .error .malformed
      | some (following, last) => .ok (foldBreaks first following, last)

/-- The rest of a quoted scalar after a run, up to and with the closing quote. -/
def quotedRest (double : Bool) (c : Cursor) : Except Fault (List Text.CodePoint × Cursor) := do
  if c.next? = some (if double then '"' else '\'') then return ([], c.advance)
  let (gap, c') ← quotedGap c
  let (run, after) ← quotedRun double c'
  if after.rest.length < c.rest.length then
    let (more, last) ← quotedRest double after
    return (gap.map .ofChar ++ run ++ more, last)
  else .error .malformed
termination_by c.rest.length

/-- A quoted scalar, from its opening quote on. -/
def quotedScalar (double : Bool) (c : Cursor) :
    Except Fault (List Text.CodePoint × Cursor) := do
  let (run, after) ← quotedRun double c.advance
  let (more, last) ← quotedRest double after
  return (run ++ more, last)

/-! ## Blocks -/

/-- What happens to the line breaks at the end of a block. -/
inductive Chomping where
  | strip
  | clip
  | keep
  deriving DecidableEq, Repr

/-- The sign that tells what happens to the line breaks at the end. -/
def takeChomping (c : Cursor) : Option (Chomping × Cursor) :=
  match c.next? with
  | some '+' => some (.keep, c.advance)
  | some '-' => some (.strip, c.advance)
  | _ => none

/-- The digit that tells the indentation of a block. -/
def takeIncrement (c : Cursor) : Except Fault (Option Nat × Cursor) :=
  match c.next? with
  | none => .ok (none, c)
  | some d =>
    if !Text.isAsciiDigit d then .ok (none, c)
    else if d = '0' then .error .malformed
    else .ok (Text.hexValue? d, c.advance)

/-- The indicators of a block, a sign and a digit in either order. -/
def blockIndicators (c : Cursor) : Except Fault (Chomping × Option Nat × Cursor) := do
  match takeChomping c with
  | some (chomping, c) =>
    let (increment, c) ← takeIncrement c
    return (chomping, increment, c)
  | none =>
    match ← takeIncrement c with
    | (none, c) => return (.clip, none, c)
    | (some increment, c) =>
      match takeChomping c with
      | some (chomping, c) => return (chomping, some increment, c)
      | none => return (.clip, some increment, c)

/-- Over what may stand behind indicators on a line: spaces, a comment and the line break. -/
def endOfLine (c : Cursor) : Except Fault Cursor :=
  let c := c.skipSpaces.skipComment
  if isBreakOrEnd c.next? then .ok c.takeBreak.2 else .error .malformed

/-- Over the spaces up to a column. -/
def skipSpacesTo (indent : Nat) (c : Cursor) : Cursor :=
  c.skip ((c.rest.takeWhile (· = ' ')).take (indent - c.column)).length

/-- The empty lines before the first line of a block, and the largest column that their
spaces and the spaces of the first line reach. -/
def leadingBreaks (widest : Nat) (c : Cursor) : List Char × Nat × Cursor :=
  let c' := c.skipSpaces
  let widest := max widest (if c'.index = c.index then 0 else c'.column)
  match c'.takeBreak with
  | ([], _) => ([], widest, c')
  | (first, after) =>
    if after.rest.length < c.rest.length then
      let (more, widest, last) := leadingBreaks widest after
      (first ++ more, widest, last)
    else (first, widest, after)
termination_by c.rest.length

/-- The empty lines before the next line of a block. -/
def blockBreaks (indent : Nat) (c : Cursor) : List Char × Cursor :=
  let c' := skipSpacesTo indent c
  match c'.takeBreak with
  | ([], _) => ([], c')
  | (first, after) =>
    if after.rest.length < c.rest.length then
      let (more, last) := blockBreaks indent after
      (first ++ more, last)
    else (first, after)
termination_by c.rest.length

/-- A block that has been read up to its last line: the text without the break of that
line, that break, and the breaks after it. -/
structure BlockLines where
  text : List Char
  lastBreak : List Char
  breaks : List Char
  after : Cursor

/-- The lines of a block. In a folded block a single line feed between two lines that do not
start with a blank becomes a space. -/
def blockLines (folded : Bool) (indent : Nat) (breaks : List Char) (c : Cursor) : BlockLines :=
  if c.column ≠ indent || c.next?.isNone then ⟨[], [], breaks, c⟩
  else
    let startsDense := !(c.next?.any isTabOrSpace)
    let (line, lineEnd) := c.span fun ch => !isBreak ch
    let (lineBreak, afterBreak) := lineEnd.takeBreak
    let (following, next) := blockBreaks indent afterBreak
    if next.column ≠ indent || next.next?.isNone then ⟨breaks ++ line, lineBreak, following, next⟩
    else if next.rest.length < c.rest.length then
      let joint :=
        if folded && lineBreak = ['\n'] && startsDense && !(next.next?.any isTabOrSpace) then
          if following.isEmpty then [' '] else []
        else lineBreak
      let more := blockLines folded indent following next
      { more with text := breaks ++ line ++ joint ++ more.text }
    else ⟨breaks ++ line, lineBreak, following, next⟩
termination_by c.rest.length

/-- A block scalar, from its indicator on, in a collection indented by `parent`
columns. -/
def blockScalar (folded : Bool) (parent : Int) (c : Cursor) :
    Except Fault (List Char × Cursor) := do
  let (chomping, increment, c) ← blockIndicators c.advance
  if !isSpaceOrEnd c.next? then throw .malformed
  let c ← endOfLine c
  let least : Nat := max 1 (parent + 1).toNat
  let (indent, breaks, c) :=
    match increment with
    | some n =>
      let indent := least + n - 1
      let (breaks, c) := blockBreaks indent c
      (indent, breaks, c)
    | none =>
      let (breaks, widest, c) := leadingBreaks 0 c
      (max least widest, breaks, c)
  let block := blockLines folded indent breaks c
  let tail :=
    match chomping with
    | .strip => []
    | .clip => block.lastBreak
    | .keep => block.lastBreak ++ block.breaks
  return (block.text ++ tail, block.after)

end CrossBuild.Yaml
