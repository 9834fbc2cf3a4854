-- Reading the texts of numbers, truth values, timestamps and binary data. What a text is is
-- settled before; here a text that is declared to be a number and is none is refused.
import CrossBuild.Text.Blank
import CrossBuild.Text.Search
import CrossBuild.Value
import CrossBuild.Yaml.Fault
import CrossBuild.Yaml.Tag

namespace CrossBuild.Yaml

namespace Numeral

/-- The value of a digit in a base; digits of all scripts count up to nine. -/
def digit? (base : Nat) (c : Char) : Option Nat :=
  let value := if isOneOf "abcdefABCDEF" (some c) then Text.hexValue? c else Text.digitValue? c
  value.filter (· < base)

/-- The value of a nonempty sequence of digits. -/
def digits? (base : Nat) (cs : List Char) : Option Nat :=
  if cs.isEmpty then none
  else (cs.mapM (digit? base)).map fun values => values.foldl (fun n d => n * base + d) 0

/-- The digits after the letter that tells the base, if it stands in front of them. -/
def withoutBase (base : Nat) : List Char → List Char
  | '0' :: letter :: cs =>
    let marked := (base = 2 ∧ isOneOf "bB" (some letter)) ∨
      (base = 8 ∧ isOneOf "oO" (some letter)) ∨ (base = 16 ∧ isOneOf "xX" (some letter))
    if marked then cs else '0' :: letter :: cs
  | cs => cs

/-- The characters without the blanks at both ends. -/
def trimmed (cs : List Char) : List Char :=
  Text.dropEndWhile Text.isBlank (cs.dropWhile Text.isBlank)

/-- A whole number in a base, with blanks around it and a sign before it. -/
def signed (base : Nat) (cs : List Char) : Except Fault Int :=
  let cs := trimmed cs
  let digits := withoutBase base (Form.unsigned cs)
  if base = 10 ∧ Text.longestDecimal < digits.length then .error .outOfRange
  else
    match digits? base digits with
    | none => .error .outOfRange
    | some n => .ok (if cs.head? = some '-' then -n else n)

/-- The value of groups of digits to the base of sixty. -/
def sixtyfold (groups : List Int) : Int :=
  groups.foldl (fun n group => n * 60 + group) 0

/-- The characters of a numeral without underscores. -/
def withoutLines (cs : List Char) : List Char := cs.filter (· ≠ '_')

/-- The value of the text of a whole number. -/
def whole (text : List Char) : Except Fault Int := do
  let cs := withoutLines text
  let magnitude ←
    match Form.unsigned cs with
    | [] => .error .emptyNumber
    | ['0'] => .ok 0
    | '0' :: 'b' :: digits => signed 2 digits
    | '0' :: 'x' :: digits => signed 16 digits
    | '0' :: digits => signed 8 ('0' :: digits)
    | digits =>
      if digits.contains ':' then sixtyfold <$> (digits.splitOn ':').mapM (signed 10)
      else signed 10 digits
  return if cs.head? = some '-' then -magnitude else magnitude

/-! ## Floating-point numbers -/

def infinity : Float := 1.0 / 0.0

def notANumber : Float := 0.0 / 0.0

/-- `n * 10 ^ e`. Powers that are far out of reach are not computed. -/
def scaled (n : Nat) (e : Int) : Float :=
  let size := (toString n).length + e
  if n = 0 ∨ size < -400 then 0.0
  else if 400 < size then infinity
  else if e < 0 then Float.ofScientific n true e.natAbs
  else Float.ofScientific n false e.natAbs

/-- The characters at the start that are decimal digits, and the rest. -/
def spanDigits (cs : List Char) : List Char × List Char :=
  cs.span fun c => (Text.digitValue? c).isSome

/-- An exponent, or nothing. -/
def exponent? : List Char → Option Int
  | [] => some 0
  | e :: cs =>
    if e ≠ 'e' ∧ e ≠ 'E' then none
    else
      (digits? 10 (Form.unsigned cs)).map fun n => if cs.head? = some '-' then -(n : Int) else n

/-- A decimal numeral without a sign. -/
def decimal? (cs : List Char) : Option Float := do
  let (before, rest) := spanDigits cs
  let (after, rest) :=
    match rest with
    | '.' :: rest => spanDigits rest
    | _ => ([], rest)
  let n ← digits? 10 (before ++ after)
  let e ← exponent? rest
  return scaled n (e - after.length)

/-- A floating-point number in small letters, with blanks around it and a sign before it. -/
def signedFloat (cs : List Char) : Except Fault Float :=
  let cs := trimmed cs
  let unsigned := Form.unsigned cs
  let word := String.ofList unsigned
  let magnitude : Option Float :=
    if word = "inf" ∨ word = "infinity" then some infinity
    else if word = "nan" then some notANumber
    else decimal? unsigned
  match magnitude with
  | none => .error .outOfRange
  | some x => .ok (if cs.head? = some '-' then -x else x)

/-- The value of groups to the base of sixty, the last one first. The weight of each group
has to be in reach of floats. -/
def sixtyfoldFloat (groups : List Float) : Except Fault Float := do
  let (sum, _) ← groups.reverse.foldlM (fun (sum, weight) group =>
    if (Float.ofNat weight).isInf then .error .tooLarge
    else .ok (sum + group * Float.ofNat weight, weight * 60)) (0.0, 1)
  return sum

/-- The value of the text of a floating-point number that is found in the node `node`. -/
def float (node : Nat) (text : List Char) : Except Fault Value := do
  let cs := (withoutLines text).map Char.toLower
  if cs.isEmpty then throw .emptyNumber
  let unsigned := Form.unsigned cs
  let word := String.ofList unsigned
  if word = ".nan" then return .notANumber none
  let magnitude ←
    if word = ".inf" then .ok infinity
    else if unsigned.contains ':' then do
      sixtyfoldFloat (← (unsigned.splitOn ':').mapM signedFloat)
    else signedFloat unsigned
  if magnitude.isNaN then return .notANumber (some node)
  return .float (if cs.head? = some '-' then -magnitude else magnitude)

/-! ## Other scalars -/

/-- The value of a word for a truth value. -/
def truth (text : String) : Except Fault Bool :=
  match Form.truthWords.lookup (text.map Char.toLower) with
  | some b => .ok b
  | none => .error .unknownTruth

/-- The microseconds that the digits of a fraction of a second write; digits after the
sixth one do not count. -/
def microseconds (fraction : List Char) : Nat :=
  let digits := fraction.take 6
  Text.numeral 10 (digits ++ List.replicate (6 - digits.length) '0')

/-- The distance from universal time, in minutes. -/
def offset (t : Form.Timestamp) : Option Int :=
  match t.offset with
  | some (sign, hours, minutes) =>
    let n : Int := Text.numeral 10 hours * 60 + Text.numeral 10 minutes
    some (if sign = '-' then -n else n)
  | none => if t.universal then some 0 else none

/-- The value of the text of a timestamp. -/
def timestamp (text : List Char) : Except Fault Value :=
  let cs := if text.getLast? = some '\n' then text.dropLast else text
  match Form.timestamp? cs with
  | none => .error .unknownTime
  | some t =>
    let date : Date := ⟨Text.numeral 10 t.year, Text.numeral 10 t.month, Text.numeral 10 t.day⟩
    match t.clock with
    | none => if date.isValid then .ok (.date date) else .error .outOfRange
    | some (hour, minute, second) =>
      let moment : Moment :=
        { date
          hour := Text.numeral 10 hour
          minute := Text.numeral 10 minute
          second := Text.numeral 10 second
          microsecond := microseconds t.fraction
          offset := offset t }
      if moment.isValid then .ok (.moment moment) else .error .outOfRange

/-! ## Binary data -/

/-- The value of a digit to the base of sixty-four. -/
def sixBits? (c : Char) : Option Nat :=
  if 'A' ≤ c ∧ c ≤ 'Z' then some (c.toNat - 'A'.toNat)
  else if 'a' ≤ c ∧ c ≤ 'z' then some (c.toNat - 'a'.toNat + 26)
  else if '0' ≤ c ∧ c ≤ '9' then some (c.toNat - '0'.toNat + 52)
  else if c = '+' then some 62
  else if c = '/' then some 63
  else none

/-- Bytes from groups of four digits. `group` holds the digits of the group that has been
started, `pads` the number of padding signs behind them. Other characters are passed over. -/
def bytesFrom (group : List Nat) (pads : Nat) : List Char → Option (List UInt8)
  | [] => if group.isEmpty then some [] else none
  | '=' :: cs =>
    if 2 ≤ group.length then
      if 4 ≤ group.length + pads + 1 then some [] else bytesFrom group (pads + 1) cs
    else bytesFrom group pads cs
  | c :: cs =>
    match sixBits? c, group with
    | none, _ => bytesFrom group pads cs
    | some d, [] => bytesFrom [d] 0 cs
    | some d, [a] => (bytesFrom [a, d] 0 cs).map (UInt8.ofNat (a * 4 + d / 16) :: ·)
    | some d, [a, b] => (bytesFrom [a, b, d] 0 cs).map (UInt8.ofNat (b % 16 * 16 + d / 4) :: ·)
    | some d, _ :: _ :: e :: _ => (bytesFrom [] 0 cs).map (UInt8.ofNat (e % 4 * 64 + d) :: ·)

/-- The bytes that a text of ASCII characters writes. -/
def binary (text : List Char) : Except Fault (List UInt8) :=
  if text.any fun c => 0x80 ≤ c.toNat then .error .malformed
  else
    match bytesFrom [] 0 text with
    | some bytes => .ok bytes
    | none => .error .malformed

end Numeral

end CrossBuild.Yaml
