-- The values that a settings file can give to a setting, and when two of them are the same key.
-- A collection is a value by its number only: what is in it is looked up in the document
-- (`CrossBuild.Document`), so that it can stand in several places, also inside itself.
import CrossBuild.Decimal.Notation
import CrossBuild.Text.CodePoint
import CrossBuild.Value.Calendar

namespace CrossBuild

/-- A value of a setting. -/
inductive Value where
  | null
  | truth (b : Bool)
  | whole (n : Int)
  | float (x : Float)
  /-- A float that is not a number. Each has an origin, and none is the origin of all that
  are written in the usual way. -/
  | notANumber (origin : Option Nat)
  | text (points : List Text.CodePoint)
  | bytes (content : List UInt8)
  | date (d : Date)
  | moment (m : Moment)
  | collection (number : Nat)
  deriving Inhabited

/-- A collection of values. -/
inductive Collection where
  | list (items : List Value)
  /-- A list of pairs, as ordered mappings are held. -/
  | pairs (items : List (Value × Value))
  | mapping (entries : List (Value × Value))
  | set (members : List Value)
  deriving Inhabited

namespace Value

/-- The value of a text. -/
def ofString (s : String) : Value := text (Text.codePoints s)

def isNull : Value → Bool
  | null => true
  | _ => false

/-- Whether a value can be a key of a mapping or a member of a set: collections can not. -/
def isKey : Value → Bool
  | collection _ => false
  | _ => true

/-! ## Keys -/

/-- The whole number that a truth value counts as. -/
def ofTruth (b : Bool) : Int := if b then 1 else 0

/-- The whole number that a key counts as. -/
def number? : Value → Option Int
  | truth b => some (ofTruth b)
  | whole n => some n
  | float x =>
    match Decimal.Parts.ofFloat x with
    | .zero _ => some 0
    | .finite negative b =>
      let r := b.value
      if r.num % r.den = 0 then
        some (if negative then -(r.num / r.den : Nat) else (r.num / r.den : Nat))
      else none
    | _ => none
  | _ => none

/-- Whether two keys are the same. Numbers and truth values are the same when they have the
same value; what is not a number is the same only as what has its origin. -/
def sameKey : Value → Value → Bool
  | null, null => true
  | notANumber a, notANumber b => a = b
  | text a, text b => a = b
  | bytes a, bytes b => a = b
  | date a, date b => a = b
  | moment a, moment b => a.same b
  | float a, float b => a == b
  | a, b =>
    match number? a, number? b with
    | some m, some n => m == n
    | _, _ => false

/-- The entries with one more: a key that is there keeps its place and takes the new
value. -/
def insertEntry (key value : Value) : List (Value × Value) → List (Value × Value)
  | [] => [(key, value)]
  | (k, v) :: rest =>
    if sameKey k key then (k, value) :: rest else (k, v) :: insertEntry key value rest

/-- The entries of a mapping that is filled from left to right. -/
def collect (entries : List (Value × Value)) : List (Value × Value) :=
  entries.foldl (fun done entry => insertEntry entry.1 entry.2 done) []

end Value

end CrossBuild
