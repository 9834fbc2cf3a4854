-- Quoted texts, as messages show them. The quote is a single one unless the text holds a
-- single quote and no double one. The quote and the backslash are escaped by a backslash, line
-- feed, carriage return and tab have escapes of their own, and every other character that is
-- not printable is written by its code in hexadecimal digits.
import CrossBuild.Text.Printable

namespace CrossBuild.Text

/-- The code in lower-case hexadecimal digits, filled up with zeros to the width. -/
def hexDigits (width n : Nat) : List Char :=
  let digits := Nat.toDigits 16 n
  List.replicate (width - digits.length) '0' ++ digits

/-- The quote that a text is shown in. -/
def quoteFor (cs : List Char) : Char :=
  if cs.contains '\'' && !cs.contains '"' then '"' else '\''

/-- A character inside quotes. -/
def escapeChar (quote c : Char) : List Char :=
  if c = quote ∨ c = '\\' then ['\\', c]
  else if c = '\n' then ['\\', 'n']
  else if c = '\r' then ['\\', 'r']
  else if c = '\t' then ['\\', 't']
  else if isPrintable c then [c]
  else if c.toNat ≤ 0xff then '\\' :: 'x' :: hexDigits 2 c.toNat
  else if c.toNat ≤ 0xffff then '\\' :: 'u' :: hexDigits 4 c.toNat
  else '\\' :: 'U' :: hexDigits 8 c.toNat

/-- The text in quotes. -/
def quoted (s : String) : String :=
  let quote := quoteFor s.toList
  String.ofList (quote :: s.toList.flatMap (escapeChar quote) ++ [quote])

/-- Bytes in quotes, after the letter b: printable ASCII stands for itself. -/
def quotedBytes (bytes : List UInt8) : String :=
  let cs := bytes.map fun b => Char.ofNat b.toNat
  let quote := quoteFor cs
  let escape (c : Char) : List Char :=
    if c.toNat ≥ 0x80 then '\\' :: 'x' :: hexDigits 2 c.toNat else escapeChar quote c
  String.ofList ('b' :: quote :: cs.flatMap escape ++ [quote])

end CrossBuild.Text
