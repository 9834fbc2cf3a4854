-- The text of a document as far as it can be read. A document is looked through block by block,
-- and a block that can not be read is met only when the reading gets to it: a fault in the text
-- before it comes first.
import CrossBuild.Text.Bytes
import CrossBuild.Yaml.Fault

namespace CrossBuild.Yaml

/-- The characters that a document may hold: no controls but tabs and line breaks. -/
def isAllowed (c : Char) : Bool :=
  let n := c.toNat
  n = 0x09 || n = 0x0a || n = 0x0d || (0x20 ≤ n && n ≤ 0x7e) || n = 0x85 ||
    (0xa0 ≤ n && n ≤ 0xfffd) || 0x10000 ≤ n

/-- The characters of a document, and the fault that is met right after them if they are not
all. -/
structure Input where
  chars : List Char
  fault : Option Fault := none

namespace Input

/-- The length of a block. -/
def blockLength : Nat := 4096

/-- Where the block of the `n`-th character starts. The first two blocks count as one. -/
def blockStart (n : Nat) : Nat :=
  if n < 2 * blockLength then 0 else n / blockLength * blockLength

/-- A document of the characters. The block of the first one that is not allowed can not be
read. -/
def ofChars (cs : List Char) : Input :=
  match cs.findIdx? fun c => !isAllowed c with
  | none => ⟨cs, none⟩
  | some n => ⟨cs.take (blockStart n), some .malformed⟩

/-- A document in UTF-8. If the bytes are no text, the block after those that the pieces
before the first bad one fill can not be read. -/
def ofBytes (content : ByteArray) : Input :=
  match String.fromUTF8? content with
  | some s => ofChars (Text.unifyBreaks s.toList)
  | none =>
    let before := Text.unifyBreaks (Text.readable content)
    match ofChars (before.take (blockStart before.length)) with
    | ⟨cs, none⟩ => ⟨cs, some .notText⟩
    | cut => cut

end Input

end CrossBuild.Yaml
