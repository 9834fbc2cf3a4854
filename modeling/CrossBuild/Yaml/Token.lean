-- The tokens of a document, and the reading of those that are neither scalars nor structure:
-- names of anchors, tags and directives.
import CrossBuild.Yaml.Scalar

namespace CrossBuild.Yaml

/-- A token. The tokens that open and close block collections are not written in the
document; they stand where its indentation changes. -/
inductive Token where
  | versionDirective (major : Nat)
  | tagDirective (handle uri : String)
  | otherDirective
  | documentStart
  | documentEnd
  | blockSequenceStart
  | blockMappingStart
  | blockEnd
  | flowSequenceStart
  | flowSequenceEnd
  | flowMappingStart
  | flowMappingEnd
  | blockEntry
  | flowEntry
  | key
  | value
  | alias (name : String)
  | anchor (name : String)
  | tag (handle : Option String) (suffix : String)
  | scalar (text : List Text.CodePoint) (plain : Bool)
  deriving DecidableEq, Repr

namespace Token

/-- A nonempty name that `ends` accepts the end of. -/
def takeName (c : Cursor) (ends : Option Char → Bool) : Except Fault (String × Cursor) :=
  let (name, after) := c.span isNameChar
  if name.isEmpty || !ends after.next? then .error after.flaw
  else .ok (String.ofList name, after)

/-- The name of an anchor or an alias, from its indicator on. -/
def takeAnchorName (c : Cursor) : Except Fault (String × Cursor) :=
  takeName c.advance fun ch => isBlankOrEnd ch || isOneOf "?:,]\x7d%@`" ch

/-! ## Tags -/

/-- A handle of a tag: an exclamation mark, alone before a space, or a name between two. -/
def takeHandle (c : Cursor) : Except Fault (String × Cursor) :=
  match c.rest with
  | '!' :: ' ' :: _ => .ok ("!", c.advance)
  | '!' :: _ =>
    let (name, after) := c.advance.span isNameChar
    if after.next? = some '!' then .ok (String.ofList ('!' :: name ++ ['!']), after.advance)
    else .error after.flaw
  | _ => .error c.flaw

/-- The characters of the URI of a tag. -/
def isUriChar (c : Char) : Bool :=
  c.isAlphanum || isOneOf "-;/?:@&=+$,_.!~*'()[]" (some c)

/-- The bytes of escapes that follow one another, a percent sign and two digits each. -/
def takeBytes : List Char → Except Fault (List UInt8 × Nat)
  | '%' :: high :: low :: rest =>
    match Text.hexValue? high, Text.hexValue? low with
    | some h, some l => do
      let (bytes, length) ← takeBytes rest
      return (UInt8.ofNat (h * 16 + l) :: bytes, length + 3)
    | _, _ => .error .malformed
  | ['%'] => .error .unfinished
  | ['%', high] => .error (if (Text.hexValue? high).isSome then .unfinished else .malformed)
  | _ => .ok ([], 0)

/-- The URI of a tag, with its escapes replaced; empty if there is none. -/
def takeUriChars (c : Cursor) : Except Fault (List Char × Cursor) := do
  let (run, c') := c.span isUriChar
  if c'.next? ≠ some '%' then return (run, c')
  let (bytes, length) ← takeBytes c'.rest
  let after := c'.skip length
  match String.fromUTF8? ⟨bytes.toArray⟩ with
  | none => throw after.flaw
  | some s =>
    if after.rest.length < c.rest.length then
      let (more, last) ← takeUriChars after
      return (run ++ s.toList ++ more, last)
    else throw .malformed
termination_by c.rest.length

/-- The nonempty URI of a tag. -/
def takeUri (c : Cursor) : Except Fault (String × Cursor) := do
  let (uri, after) ← takeUriChars c
  if uri.isEmpty then throw after.flaw
  return (String.ofList uri, after)

/-- A tag with a handle or a short one, from its exclamation mark on. Which of them it is
shows in the whole word, so a short one that can not be read is unfinished if the word is. -/
def takeShorthand (c : Cursor) : Except Fault (Token × Cursor) := do
  let rest := c.advance.rest
  let word := rest.takeWhile fun ch => !isSpaceOrEnd (some ch)
  let (handle, after) ← if word.contains '!' then takeHandle c else pure ("!", c.advance)
  match takeUri after with
  | .ok (suffix, after) => return (.tag (some handle) suffix, after)
  | .error fault => throw (if handle = "!" && word.length = rest.length then .unfinished else fault)

/-- A tag, from its exclamation mark on. -/
def takeTag (c : Cursor) : Except Fault (Token × Cursor) := do
  let (token, after) ←
    if c.peek? 1 = some '<' then
      let (suffix, after) ← takeUri (c.skip 2)
      if after.next? ≠ some '>' then throw after.flaw
      pure (Token.tag none suffix, after.advance)
    else if isBlankOrEnd (c.peek? 1) then
      pure (Token.tag none "!", c.advance)
    else takeShorthand c
  if !isSpaceOrEnd after.next? then throw .malformed
  return (token, after)

/-! ## Directives -/

/-- A number in ASCII digits. -/
def takeNumber (c : Cursor) : Except Fault (Nat × Cursor) :=
  let (digits, after) := c.span Text.isAsciiDigit
  if digits.isEmpty then .error after.flaw
  else if Text.longestDecimal < digits.length then .error .outOfRange
  else .ok (Text.numeral 10 digits, after)

/-- The version of the format that a document declares. -/
def takeVersion (c : Cursor) : Except Fault (Token × Cursor) := do
  let (major, after) ← takeNumber c.skipSpaces
  if after.next? ≠ some '.' then throw after.flaw
  let (_, after) ← takeNumber after.advance
  if !isSpaceOrEnd after.next? then throw .malformed
  return (.versionDirective major, after)

/-- A handle and the URI that it stands for. -/
def takeTagDirective (c : Cursor) : Except Fault (Token × Cursor) := do
  let (handle, after) ← takeHandle c.skipSpaces
  if after.next? ≠ some ' ' then throw after.flaw
  let (uri, after) ← takeUri after.skipSpaces
  if !isSpaceOrEnd after.next? then throw .malformed
  return (.tagDirective handle uri, after)

/-- A directive with its line, from the percent sign on. -/
def takeDirective (c : Cursor) : Except Fault (Token × Cursor) := do
  let (name, c) ← takeName c.advance isSpaceOrEnd
  let (token, after) ←
    if name = "YAML" then takeVersion c
    else if name = "TAG" then takeTagDirective c
    else pure (Token.otherDirective, c.skipWhile fun ch => !isBreak ch)
  return (token, ← endOfLine after)

end Token

end CrossBuild.Yaml
