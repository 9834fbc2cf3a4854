-- Texts in files: UTF-8, with line breaks of several kinds. A file is read piece by piece, and
-- a piece can end inside of a character.

namespace CrossBuild.Text

/-- The text with each of the usual line breaks as a line feed. -/
def unifyBreaks : List Char → List Char
  | '\r' :: '\n' :: cs => '\n' :: unifyBreaks cs
  | '\r' :: cs => '\n' :: unifyBreaks cs
  | c :: cs => c :: unifyBreaks cs
  | [] => []

/-- Bytes to end a character with: what the first bytes of any character lack is among
them. -/
def completions : List (List UInt8) :=
  [[], [0x80], [0x80, 0x80], [0x80, 0x80, 0x80], [0xa0, 0x80], [0x90, 0x80, 0x80]]

/-- The whole characters at the start of a text that begins with the bytes; nothing if no
text does. -/
def begun? (b : ByteArray) : Option (List Char) :=
  completions.findSome? fun rest =>
    (String.fromUTF8? (b ++ ⟨rest.toArray⟩)).map fun s =>
      if rest.isEmpty then s.toList else s.toList.dropLast

/-- The length of a piece, in bytes. -/
def pieceLength : Nat := 8192

/-- The characters of a file up to the first piece that ends its text. -/
def readable (b : ByteArray) : List Char :=
  let starts := (List.range (b.size / pieceLength + 2)).map fun n => b.extract 0 (n * pieceLength)
  ((starts.filterMap begun?).getLast?).getD []

end CrossBuild.Text
