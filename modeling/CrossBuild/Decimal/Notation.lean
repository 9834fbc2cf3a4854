-- How floating-point numbers are written. Which digits are written is settled by
-- `Binary.shortest`; a notation settles where the point goes and when an exponent is used.
import CrossBuild.Decimal.Shortest

namespace CrossBuild.Decimal

/-- The decisions of a notation. -/
structure Notation where
  /-- The least power of ten of the first digit that is written without an exponent. -/
  leastPlain : Int
  /-- The largest power of ten of the first digit that is written without an exponent. -/
  largestPlain : Int
  /-- The least number of digits of an exponent. -/
  exponentWidth : Nat
  infinite : String
  nan : String

namespace Notation

/-- Digits with an exponent: a point after the first digit if there are more, and a sign
before the exponent. -/
def scientific (n : Notation) (digits : List Char) (power : Int) : String :=
  let mantissa :=
    match digits with
    | [] => []
    | [c] => [c]
    | c :: cs => c :: '.' :: cs
  let exponent := (toString power.natAbs).toList
  let filled := List.replicate (n.exponentWidth - exponent.length) '0' ++ exponent
  String.ofList (mantissa ++ 'e' :: (if power < 0 then '-' else '+') :: filled)

/-- Digits without an exponent, with at least one digit on both sides of the point. -/
def plain (digits : List Char) (power : Int) : String :=
  match power with
  | .negSucc k => String.ofList ('0' :: '.' :: List.replicate k '0' ++ digits)
  | .ofNat k =>
    let whole := digits.take (k + 1)
    let rest := digits.drop (k + 1)
    let filled := whole ++ List.replicate (k + 1 - whole.length) '0'
    String.ofList (filled ++ '.' :: if rest.isEmpty then ['0'] else rest)

/-- The text of a positive decimal. -/
def digits (n : Notation) (d : Digits) : String :=
  let cs := (toString d.digits).toList
  let power := d.exponent + (cs.length - 1 : Nat)
  if n.leastPlain ≤ power ∧ power ≤ n.largestPlain then plain cs power
  else n.scientific cs power

/-- The text of a floating-point number. -/
def float (n : Notation) (x : Float) : String :=
  let signed (negative : Bool) (s : String) := if negative then "-" ++ s else s
  match Parts.ofFloat x with
  | .nan => n.nan
  | .infinite negative => signed negative n.infinite
  | .zero negative => signed negative "0.0"
  | .finite negative b => signed negative (n.digits b.shortest)

end Notation

end CrossBuild.Decimal
