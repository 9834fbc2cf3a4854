-- Texts as code points. Besides the characters there are code points that are halves of a
-- surrogate pair. A document can name them one by one, and as long as its text is only compared
-- or quoted each half stands for itself; where the text is read as characters, two halves that
-- make a pair are one character.
import CrossBuild.Text.Quoted

namespace CrossBuild.Text

/-- A code point by its number: a character, or a half of a surrogate pair. -/
structure CodePoint where
  number : Nat
  deriving DecidableEq, Repr

namespace CodePoint

def ofChar (c : Char) : CodePoint := ⟨c.toNat⟩

/-- The first half of a surrogate pair. -/
def isHighHalf (p : CodePoint) : Bool := 0xd800 ≤ p.number && p.number < 0xdc00

/-- The second half of a surrogate pair. -/
def isLowHalf (p : CodePoint) : Bool := 0xdc00 ≤ p.number && p.number < 0xe000

def isHalf (p : CodePoint) : Bool := p.isHighHalf || p.isLowHalf

/-- The character that stands where one can not be shown. -/
def replacement : Char := Char.ofNat 0xfffd

/-- The character that a code point is; a half of a pair is none, and it is replaced. -/
def toChar (p : CodePoint) : Char := if p.isHalf then replacement else Char.ofNat p.number

theorem isHalf_eq_false {p : CodePoint} (h : p.number < 0xd800 ∨ 0xdfff < p.number) :
    p.isHalf = false := by
  simp only [isHalf, isHighHalf, isLowHalf, Bool.or_eq_false_iff, Bool.and_eq_false_iff,
    decide_eq_false_iff_not]
  omega

/-- A character is no half of a pair. -/
theorem isHalf_ofChar (c : Char) : (ofChar c).isHalf = false :=
  isHalf_eq_false (c.valid.imp id And.left)

theorem toChar_ofChar (c : Char) : (ofChar c).toChar = c := by
  rw [toChar, isHalf_ofChar]
  simp [ofChar]

/-- The character that two halves make. -/
def pair (high low : CodePoint) : Char :=
  Char.ofNat (0x10000 + (high.number - 0xd800) * 0x400 + (low.number - 0xdc00))

end CodePoint

/-- The code points of a text. -/
def codePoints (s : String) : List CodePoint := s.toList.map .ofChar

/-- The characters of code points. Two halves of a pair are one character. -/
def joinHalves : List CodePoint → List Char
  | p :: q :: rest =>
    if p.isHighHalf && q.isLowHalf then CodePoint.pair p q :: joinHalves rest
    else p.toChar :: joinHalves (q :: rest)
  | [p] => [p.toChar]
  | [] => []

/-- The text that code points write. -/
def ofCodePoints (ps : List CodePoint) : String := String.ofList (joinHalves ps)

/-- A code point inside quotes; a half of a pair is written by its number. -/
def escapeCodePoint (quote : Char) (p : CodePoint) : List Char :=
  if p.isHalf then '\\' :: 'u' :: hexDigits 4 p.number else escapeChar quote p.toChar

/-- Code points in quotes. -/
def quotedCodePoints (ps : List CodePoint) : String :=
  let quote := quoteFor (ps.map CodePoint.toChar)
  String.ofList (quote :: ps.flatMap (escapeCodePoint quote) ++ [quote])

/-- Whether code points come before others in the usual order of texts, or are the same. -/
def codePointsLe (ps qs : List CodePoint) : Bool :=
  !(qs.map CodePoint.number).lex (ps.map CodePoint.number) fun m n => decide (m < n)

end CrossBuild.Text
