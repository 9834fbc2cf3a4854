-- The shortest decimal that reads back as a given binary number. A finite binary number is
-- `mantissa * 2 ^ exponent`; the decimals that read back as it lie between the midpoints to
-- its neighbours, the midpoints included when the mantissa is even. On the grids of one, two,
-- three and more digits the two neighbours of the number are tested, and the first grid with a
-- hit gives the digits.

namespace CrossBuild.Decimal

/-- A positive binary number, `mantissa * 2 ^ exponent`. -/
structure Binary where
  mantissa : Nat
  exponent : Int
  /-- Whether the number is a power of two whose lower neighbour is only half as far away as
  the upper one. -/
  closeBelow : Bool

/-- A positive decimal number, `digits * 10 ^ exponent`. -/
structure Digits where
  digits : Nat
  exponent : Int
  deriving DecidableEq, Repr

/-- A positive quotient of natural numbers. -/
structure Ratio where
  num : Nat
  den : Nat

namespace Ratio

def le (a b : Ratio) : Bool := a.num * b.den ≤ b.num * a.den

def lt (a b : Ratio) : Bool := a.num * b.den < b.num * a.den

/-- `n * base ^ e`, for exponents of either sign. -/
def scaled (n base : Nat) (e : Int) : Ratio :=
  match e with
  | .ofNat k => ⟨n * base.pow k, 1⟩
  | .negSucc k => ⟨n, base.pow (k + 1)⟩

end Ratio

namespace Binary

/-- The value of a binary number. -/
def value (b : Binary) : Ratio := .scaled b.mantissa 2 b.exponent

/-- The midpoint to the neighbour below, in quarters of the last place. -/
def lower (b : Binary) : Ratio :=
  .scaled (4 * b.mantissa - if b.closeBelow then 1 else 2) 2 (b.exponent - 2)

/-- The midpoint to the neighbour above. -/
def upper (b : Binary) : Ratio := .scaled (4 * b.mantissa + 2) 2 (b.exponent - 2)

/-- Whether a decimal is read back as the binary number. -/
def accepts (b : Binary) (d : Digits) : Bool :=
  let r := Ratio.scaled d.digits 10 d.exponent
  if b.mantissa % 2 = 0 then b.lower.le r && r.le b.upper
  else b.lower.lt r && r.lt b.upper

/-- The exponent of a power of ten above the number, at most two larger than needed. -/
def scale (b : Binary) : Int :=
  let bits : Int := Nat.log2 b.mantissa + b.exponent
  bits * 1233 / 4096 + 2

/-- The larger multiple of `10 ^ e` that is not above the number, divided by it. -/
def floorAt (b : Binary) (e : Int) : Nat :=
  let r := b.value
  match e with
  | .ofNat k => r.num / (r.den * Nat.pow 10 k)
  | .negSucc k => r.num * Nat.pow 10 (k + 1) / r.den

/-- The better of the two neighbours on the grid of `10 ^ e` that read back: the nearer one,
and the even one of two that are equally near. -/
def neighbourAt? (b : Binary) (e : Int) : Option Digits :=
  let low : Digits := ⟨b.floorAt e, e⟩
  let high : Digits := ⟨b.floorAt e + 1, e⟩
  match b.accepts low && low.digits ≠ 0, b.accepts high with
  | true, false => some low
  | false, true => some high
  | false, false => none
  | true, true =>
    let middle := Ratio.scaled (2 * low.digits + 1) 10 e
    let twice : Ratio := ⟨2 * b.value.num, b.value.den⟩
    if twice.lt middle then some low
    else if middle.lt twice then some high
    else if low.digits % 2 = 0 then some low
    else some high

/-- The first hit on the grids from `10 ^ e` on, each ten times as fine as the one before. -/
def search (b : Binary) : Nat → Int → Option Digits
  | 0, _ => none
  | n + 1, e =>
    match b.neighbourAt? e with
    | some d => some d
    | none => b.search n (e - 1)

end Binary

/-- The decimal without zeros at its end. -/
def Digits.strip (d : Digits) : Nat → Digits
  | 0 => d
  | n + 1 =>
    if d.digits % 10 = 0 ∧ d.digits ≠ 0 then Digits.strip ⟨d.digits / 10, d.exponent + 1⟩ n
    else d

/-- The shortest decimal that reads back as the binary number. Seventeen digits always read
back, and the search starts at most two grids above the first digit, so twenty grids are
enough. -/
def Binary.shortest (b : Binary) : Digits :=
  ((b.search 20 b.scale).getD ⟨b.floorAt (b.scale - 20), b.scale - 20⟩).strip 20

/-- A floating-point number taken apart: not a number, infinite, zero, or finite with a sign. -/
inductive Parts where
  | nan
  | infinite (negative : Bool)
  | zero (negative : Bool)
  | finite (negative : Bool) (b : Binary)

/-- The parts of a floating-point number with 52 bits of mantissa and 11 of exponent. -/
def Parts.ofFloat (x : Float) : Parts :=
  let bits := x.toBits.toNat
  let negative : Bool := bits / Nat.pow 2 63 = 1
  let exponent : Nat := bits / Nat.pow 2 52 % Nat.pow 2 11
  let fraction : Nat := bits % Nat.pow 2 52
  if exponent = Nat.pow 2 11 - 1 then if fraction = 0 then .infinite negative else .nan
  else if exponent = 0 then
    if fraction = 0 then .zero negative else .finite negative ⟨fraction, -1074, false⟩
  else
    .finite negative
      ⟨Nat.pow 2 52 + fraction, (exponent : Int) - 1075, fraction = 0 && exponent > 1⟩

end CrossBuild.Decimal
