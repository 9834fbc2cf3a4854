-- A place in a document: what is left to read, and where it stands. The end of the document is
-- read as no character.
import CrossBuild.Yaml.Fault

namespace CrossBuild.Yaml

/-- A place in a document. -/
structure Cursor where
  rest : List Char
  index : Nat
  line : Nat
  column : Nat
  deriving Repr

/-- The character that marks the byte order at the start of a document. It takes no
column. -/
def byteOrderMark : Char := Char.ofNat 0xfeff

/-- A character that ends a line. -/
def isBreak (c : Char) : Bool :=
  c = '\n' || c = '\r' || c.toNat = 0x85 || c.toNat = 0x2028 || c.toNat = 0x2029

/-- A line break, or the end of the document. -/
def isBreakOrEnd : Option Char → Bool
  | none => true
  | some c => isBreak c

/-- A space, a line break, or the end of the document. -/
def isSpaceOrEnd : Option Char → Bool
  | none => true
  | some c => c = ' ' || isBreak c

/-- A space, a tab, a line break, or the end of the document. -/
def isBlankOrEnd : Option Char → Bool
  | none => true
  | some c => c = ' ' || c = '\t' || isBreak c

/-- The letters of names: ASCII letters and digits, the hyphen and the underscore. -/
def isNameChar (c : Char) : Bool :=
  c.isAlphanum || c = '-' || c = '_'

/-- Whether the next character is one of those given. -/
def isOneOf (cs : String) : Option Char → Bool
  | none => false
  | some c => cs.toList.contains c

namespace Cursor

/-- The start of a document. -/
def ofChars (cs : List Char) : Cursor := ⟨cs, 0, 0, 0⟩

/-- The next character. -/
def next? (c : Cursor) : Option Char := c.rest.head?

/-- The fault of a document where something else has to stand than what is here. -/
def flaw (c : Cursor) : Fault :=
  if c.rest.isEmpty then .unfinished else .malformed

/-- The character `n` places further on. -/
def peek? (c : Cursor) (n : Nat) : Option Char := c.rest[n]?

/-- One character further. -/
def advance (c : Cursor) : Cursor :=
  match c.rest with
  | [] => c
  | ch :: rest =>
    if isBreak ch && !(ch = '\r' && rest.head? = some '\n') then
      ⟨rest, c.index + 1, c.line + 1, 0⟩
    else
      ⟨rest, c.index + 1, c.line, if ch = byteOrderMark then c.column else c.column + 1⟩

/-- `n` characters further. -/
def skip (c : Cursor) : Nat → Cursor
  | 0 => c
  | n + 1 => c.advance.skip n

/-- The characters up to the first one that fails `p`, and the place of that one. -/
def span (c : Cursor) (p : Char → Bool) : List Char × Cursor :=
  let taken := c.rest.takeWhile p
  (taken, c.skip taken.length)

def skipWhile (c : Cursor) (p : Char → Bool) : Cursor := (c.span p).2

def skipSpaces (c : Cursor) : Cursor := c.skipWhile (· = ' ')

/-- Over a comment, if one starts here. -/
def skipComment (c : Cursor) : Cursor :=
  if c.next? = some '#' then c.skipWhile fun ch => !isBreak ch else c

/-- Over a line break, if one is here, and what it stands for in a text: the break itself
for the two Unicode separators, a line feed for all others. -/
def takeBreak (c : Cursor) : List Char × Cursor :=
  match c.rest with
  | '\r' :: '\n' :: _ => (['\n'], c.skip 2)
  | ch :: _ =>
    if !isBreak ch then ([], c)
    else if ch.toNat = 0x2028 || ch.toNat = 0x2029 then ([ch], c.advance)
    else (['\n'], c.advance)
  | [] => ([], c)

/-- Whether three hyphens or three dots stand here as a word of their own. -/
def atSeparator (c : Cursor) : Bool :=
  match c.rest with
  | '-' :: '-' :: '-' :: rest => isBlankOrEnd rest.head?
  | '.' :: '.' :: '.' :: rest => isBlankOrEnd rest.head?
  | _ => false

/-- Over the line breaks that follow a line break, and the characters around them that
satisfy `p`. Nothing if a separator stands at the start of one of the lines. -/
def followingBreaks (p : Char → Bool) (c : Cursor) : Option (List Char × Cursor) :=
  if c.atSeparator then none
  else
    match (c.skipWhile p).takeBreak with
    | ([], after) => some ([], after)
    | (taken, after) =>
      if after.rest.length < c.rest.length then
        (followingBreaks p after).map fun (more, last) => (taken ++ more, last)
      else some (taken, after)
termination_by c.rest.length

end Cursor

/-- What a line break and the breaks after it stand for in a text that is folded: a single
line feed becomes a space, and of several the first one is dropped. -/
def foldBreaks (first following : List Char) : List Char :=
  if first ≠ ['\n'] then first ++ following
  else if following.isEmpty then [' ']
  else following

end CrossBuild.Yaml
