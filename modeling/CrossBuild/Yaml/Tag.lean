-- Tags, which tell the kind of a node, and the kinds that plain scalars have by their form
-- alone.
import CrossBuild.Text.Digit
import CrossBuild.Yaml.Cursor

namespace CrossBuild.Yaml

/-- The kind of a node. -/
inductive Tag where
  | null
  | truth
  | whole
  | float
  | binary
  | timestamp
  | text
  | list
  | mapping
  | set
  | orderedMapping
  | pairs
  /-- The key that merges other mappings into a mapping. -/
  | merge
  /-- The key whose value stands for the whole mapping. -/
  | value
  /-- A kind that has no meaning here. -/
  | unknown
  deriving DecidableEq, Repr

namespace Tag

/-- The start of the URIs of the known kinds. -/
def uriStart : String := "tag:yaml.org,2002:"

/-- The URIs of the known kinds. -/
def known : List (String × Tag) := [
  ("null", null), ("bool", truth), ("int", whole), ("float", float), ("binary", binary),
  ("timestamp", timestamp), ("str", text), ("seq", list), ("map", mapping), ("set", set),
  ("omap", orderedMapping), ("pairs", pairs), ("merge", merge), ("value", value)]

/-- Whether nodes of the kind are collections. -/
def isCollection : Tag → Bool
  | list | mapping | set | orderedMapping | pairs => true
  | _ => false

def ofUri (uri : String) : Tag :=
  ((known.find? fun (name, _) => uriStart ++ name = uri).map (·.2)).getD unknown

end Tag

/-! ## Forms of plain scalars -/

namespace Form

/-- The characters after a sign, if there is one. -/
def unsigned : List Char → List Char
  | '+' :: cs => cs
  | '-' :: cs => cs
  | cs => cs

def isDigitOrLine (c : Char) : Bool := Text.isAsciiDigit c || c = '_'

/-- A nonempty text that starts with a digit and goes on with digits and underscores. -/
def isDigits : List Char → Bool
  | c :: cs => Text.isAsciiDigit c && cs.all isDigitOrLine
  | [] => false

/-- The characters before and after the first one that fails `p`. -/
def cut (p : Char → Bool) (cs : List Char) : List Char × List Char :=
  (cs.takeWhile p, cs.dropWhile p)

/-- Groups of one or two digits below sixty, each after a colon, and what follows them. -/
def sixties : List Char → Nat × List Char
  | ':' :: a :: b :: cs =>
    if '0' ≤ a && a ≤ '5' && Text.isAsciiDigit b then
      let (n, rest) := sixties cs
      (n + 1, rest)
    else if Text.isAsciiDigit a then
      let (n, rest) := sixties (b :: cs)
      (n + 1, rest)
    else (0, ':' :: a :: b :: cs)
  | [':', a] => if Text.isAsciiDigit a then (1, []) else (0, [':', a])
  | cs => (0, cs)

/-- A whole number: binary, octal, decimal, hexadecimal, or in groups to the base of
sixty. -/
def isWhole (s : List Char) : Bool :=
  match unsigned s with
  | ['0'] => true
  | '0' :: 'b' :: cs => !cs.isEmpty && cs.all fun c => c = '0' || c = '1' || c = '_'
  | '0' :: 'x' :: cs => !cs.isEmpty && cs.all fun c => (Text.hexValue? c).isSome || c = '_'
  | '0' :: cs => cs.all fun c => ('0' ≤ c && c ≤ '7') || c = '_'
  | cs =>
    let (digits, rest) := cut isDigitOrLine cs
    isDigits digits && (rest.isEmpty || (let (n, rest) := sixties rest; 0 < n && rest.isEmpty))

/-- Nothing, or an exponent with a sign. -/
def isExponentOrEmpty : List Char → Bool
  | [] => true
  | e :: sign :: cs =>
    (e = 'e' || e = 'E') && (sign = '+' || sign = '-') && !cs.isEmpty && cs.all Text.isAsciiDigit
  | _ => false

/-- A number with a point, not a number, or infinity. -/
def isFloat (s : List Char) : Bool :=
  [".nan", ".NaN", ".NAN"].contains (String.ofList s) ||
  [".inf", ".Inf", ".INF"].contains (String.ofList (unsigned s)) ||
  (match s with
    | '.' :: cs =>
      let (digits, rest) := cut isDigitOrLine cs
      isDigits digits && isExponentOrEmpty rest
    | _ => false) ||
  (let (digits, rest) := cut isDigitOrLine (unsigned s)
   isDigits digits &&
    match rest with
    | '.' :: cs => isExponentOrEmpty (cs.dropWhile isDigitOrLine)
    | _ =>
      match sixties rest with
      | (_ + 1, '.' :: cs) => cs.all isDigitOrLine
      | _ => false)

/-- The parts of a timestamp as they are written. -/
structure Timestamp where
  year : List Char
  month : List Char
  day : List Char
  /-- Hour, minute and second. -/
  clock : Option (List Char × List Char × List Char)
  fraction : List Char
  /-- The sign, the hours and the minutes of the distance from universal time. -/
  offset : Option (Char × List Char × List Char)
  universal : Bool
  deriving DecidableEq, Repr

/-- Between `least` and `most` digits at the start, as many as there are. -/
def takeDigits (least most : Nat) (cs : List Char) : Option (List Char × List Char) :=
  let digits := (cs.take most).takeWhile Text.isAsciiDigit
  if least ≤ digits.length then some (digits, cs.drop digits.length) else none

/-- What follows a character that has to stand first. -/
def after? (c : Char) : List Char → Option (List Char)
  | d :: cs => if d = c then some cs else none
  | [] => none

def isTabOrSpace (c : Char) : Bool := c = ' ' || c = '\t'

/-- The end of a timestamp: nothing, or blanks and the distance from universal time. -/
def zone (t : Timestamp) (cs : List Char) : Option Timestamp :=
  if cs.isEmpty then some t
  else
    match cs.dropWhile isTabOrSpace with
    | ['Z'] => some { t with universal := true }
    | sign :: cs =>
      if sign ≠ '+' ∧ sign ≠ '-' then none
      else do
        let (hours, rest) ← takeDigits 1 2 cs
        match rest with
        | [] => return { t with offset := some (sign, hours, []) }
        | ':' :: rest =>
          let (minutes, rest) ← takeDigits 2 2 rest
          if rest.isEmpty then return { t with offset := some (sign, hours, minutes) } else none
        | _ => none
    | [] => none

/-- The parts of a timestamp: a day, or a day and a time of the day. -/
def timestamp? (cs : List Char) : Option Timestamp := do
  let (year, rest) ← takeDigits 4 4 cs
  let (month, rest) ← takeDigits 1 2 (← after? '-' rest)
  let (day, rest) ← takeDigits 1 2 (← after? '-' rest)
  let t : Timestamp :=
    { year, month, day, clock := none, fraction := [], offset := none, universal := false }
  if rest.isEmpty then return t
  let clock ←
    match rest with
    | 'T' :: cs => some cs
    | 't' :: cs => some cs
    | c :: _ =>
      if isTabOrSpace c then some (rest.dropWhile isTabOrSpace) else none
    | [] => none
  let (hour, rest) ← takeDigits 1 2 clock
  let (minute, rest) ← takeDigits 2 2 (← after? ':' rest)
  let (second, rest) ← takeDigits 2 2 (← after? ':' rest)
  let t := { t with clock := some (hour, minute, second) }
  match rest with
  | '.' :: cs =>
    zone { t with fraction := cs.takeWhile Text.isAsciiDigit } (cs.dropWhile Text.isAsciiDigit)
  | _ => zone t rest

/-- A timestamp that is one by its form: a lone day has two digits for month and day. -/
def isTimestamp (cs : List Char) : Bool :=
  match timestamp? cs with
  | none => false
  | some t => t.clock.isSome || (t.month.length = 2 && t.day.length = 2)

/-- The words of truth values. -/
def truthWords : List (String × Bool) :=
  [("yes", true), ("no", false), ("true", true), ("false", false), ("on", true), ("off", false)]

/-- A word written small, with a capital, or in capitals. -/
def isCased (word : String) (s : String) : Bool :=
  s = word || s = word.capitalize || s = word.map Char.toUpper

def isTruth (s : String) : Bool := truthWords.any fun (word, _) => isCased word s

def isNull (s : String) : Bool := s = "" || s = "~" || isCased "null" s

end Form

namespace Tag

/-- The kind of a plain scalar by its form. One line feed at the end of other characters
does not count. -/
def ofForm (s : List Char) : Tag :=
  let cs := if 1 < s.length && s.getLast? = some '\n' then s.dropLast else s
  let word := String.ofList cs
  if Form.isTruth word then truth
  else if Form.isFloat cs then float
  else if Form.isWhole cs then whole
  else if word = "<<" then merge
  else if Form.isNull word then null
  else if Form.isTimestamp cs then timestamp
  else if word = "=" then value
  else if word = "!" ∨ word = "&" ∨ word = "*" then unknown
  else text

end Tag

end CrossBuild.Yaml
