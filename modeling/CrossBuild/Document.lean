-- Documents: a value with the collections that stand in it, and the text that each value in a
-- document stands for. Inside a collection that is shown, the collection itself is shown as
-- three dots only, so that every text is finite.
import CrossBuild.Text.Digit
import CrossBuild.Value.Slots

namespace CrossBuild

/-- A value, and the collections in it by their numbers. -/
structure Document where
  root : Value
  collections : Array Collection := #[]

/-! ## Text of values -/

namespace Value

/-- Floats are written with a point and without an exponent from 0.0001 up to sixteen
digits before the point. -/
def floatNotation : Decimal.Notation where
  leastPlain := -4
  largestPlain := 15
  exponentWidth := 2
  infinite := "inf"
  nan := "nan"

/-- The text of a whole number, if it is not too long to be written out. -/
def wholeText (n : Int) : Option String :=
  let digits := toString n.natAbs
  if Text.longestDecimal < digits.length then none
  else some (if n < 0 then "-" ++ digits else digits)

/-- The text of an offset from universal time inside a collection. -/
def offsetShown (minutes : Int) : String :=
  if minutes = 0 then "datetime.timezone.utc"
  else "datetime.timezone(datetime.timedelta(" ++
    ", ".intercalate (Moment.offsetArguments minutes) ++ "))"

/-- The text of a point in time inside a collection. -/
def momentShown (m : Moment) : String :=
  let offset := (m.offset.map fun minutes => ["tzinfo=" ++ offsetShown minutes]).getD []
  "datetime.datetime(" ++ ", ".intercalate (m.arguments ++ offset) ++ ")"

/-- The text of a value inside a collection, where texts are quoted. `inner` gives the text of
a collection by its number. -/
def shown (inner : Nat → Option String) : Value → Option String
  | null => some "None"
  | truth b => some (if b then "True" else "False")
  | whole n => wholeText n
  | float x => some (floatNotation.float x)
  | notANumber _ => some floatNotation.nan
  | text points => some (Text.quotedCodePoints points)
  | bytes content => some (Text.quotedBytes content)
  | date d => some ("datetime.date(" ++ ", ".intercalate d.arguments ++ ")")
  | moment m => some (momentShown m)
  | collection number => inner number

end Value

namespace Collection

/-- The name of the kind of a collection. -/
def kindName : Collection → String
  | list _ => "list"
  | pairs _ => "list"
  | mapping _ => "dict"
  | set _ => "set"

/-- The text of a pair of values, between and around which the given texts stand. -/
def pairShown (inner : Nat → Option String) (opening middle closing : String)
    (pair : Value × Value) : Option String := do
  return opening ++ (← pair.1.shown inner) ++ middle ++ (← pair.2.shown inner) ++ closing

/-- Texts in brackets, with commas between them. -/
def bracketed (opening closing : String) (items : List String) : String :=
  opening ++ ", ".intercalate items ++ closing

/-- The text of a collection. `inner` gives the texts of the collections in it. -/
def shown (inner : Nat → Option String) : Collection → Option String
  | list items => bracketed "[" "]" <$> items.mapM (Value.shown inner)
  | pairs items => bracketed "[" "]" <$> items.mapM (pairShown inner "(" ", " ")")
  | mapping entries => bracketed "\x7b" "\x7d" <$> entries.mapM (pairShown inner "" ": " "")
  | set [] => some "set()"
  | set members => bracketed "\x7b" "\x7d" <$> (Value.slotOrder members).mapM (Value.shown inner)

/-- What stands for a collection inside itself. -/
def dots : Collection → String
  | list _ | pairs _ => "[...]"
  | mapping _ => "\x7b...\x7d"
  | set _ => "set(...)"

end Collection

namespace Document

/-- The text of a collection, where only the collections in `closed` are shown in full. -/
def shownFrom (d : Document) (closed : List Nat) (number : Nat) : Option String :=
  match d.collections[number]? with
  | none => none
  | some c =>
    if number ∈ closed then c.shown (d.shownFrom (closed.erase number)) else some c.dots
termination_by closed.length
decreasing_by
  rename_i h
  have := List.length_pos_of_mem h
  rw [List.length_erase_of_mem h]
  omega

/-- The text that a value stands for: a text stands for itself, and points in time for their
usual form. There is none for a number that is too long, or if such a number is in it. -/
def display (d : Document) : Value → Option String
  | .text points => some (Text.ofCodePoints points)
  | .date day => some day.text
  | .moment m => some m.text
  | v => v.shown (d.shownFrom (List.range d.collections.size))

/-- The name of the kind of a value. -/
def kindName (d : Document) : Value → String
  | .null => "NoneType"
  | .truth _ => "bool"
  | .whole _ => "int"
  | .float _ => "float"
  | .notANumber _ => "float"
  | .text _ => "str"
  | .bytes _ => "bytes"
  | .date _ => "date"
  | .moment _ => "datetime"
  | .collection number => ((d.collections[number]?).map Collection.kindName).getD "NoneType"

/-- The entries of the mapping that a value is. -/
def entries? (d : Document) : Value → Option (List (Value × Value))
  | .collection number =>
    match d.collections[number]? with
    | some (.mapping entries) => some entries
    | _ => none
  | _ => none

end Document

end CrossBuild
