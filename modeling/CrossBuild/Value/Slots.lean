-- The order in which the members of a set are shown. A set keeps its members in slots, and a
-- number goes to the first free slot on a way through all of them that its residue settles. Only
-- numbers have a residue: in a set with other members no slot is settled, and the members are
-- shown in the order in which they come.
import CrossBuild.Value

namespace CrossBuild.Value

/-! ## Residues -/

/-- The binary digits of the prime that residues are taken by. -/
def residueBits : Nat := 61

/-- The residue of a sign and a positive number `mantissa * 2 ^ exponent`. A power of two with
`residueBits` as its exponent leaves one, so the exponent counts up to its own residue only. -/
def signedResidue (negative : Bool) (mantissa : Nat) (exponent : Int) : Int :=
  let prime := Nat.pow 2 residueBits - 1
  let r : Int := (mantissa % prime * Nat.pow 2 (exponent % residueBits).toNat % prime : Nat)
  if negative then -r else r

/-- The residue of infinity. -/
def infiniteResidue : Int := 314159

/-- The residue of a number; equal numbers have the same. -/
def residue? : Value → Option Int
  | truth b => some (ofTruth b)
  | whole n => some (signedResidue (n < 0) n.natAbs 0)
  | float x =>
    match Decimal.Parts.ofFloat x with
    | .nan => none
    | .infinite negative => some (if negative then -infiniteResidue else infiniteResidue)
    | .zero _ => some 0
    | .finite negative b => some (signedResidue negative b.mantissa b.exponent)
  | _ => none

/-- The word of a residue, in two's complement. Minus one is set aside as a sign of failure, so
minus two stands for it. -/
def wordOf (residue : Int) : Nat :=
  ((if residue = -1 then -2 else residue) % Nat.pow 2 64).toNat

/-! ## Slots -/

/-- The number of slots for so many members: a power of two, and more than twice as many as
the members if they are more than four. -/
def slotCount (members : Nat) : Nat :=
  if members < 5 then 8 else Nat.pow 2 (Nat.log2 (2 * members) + 1)

/-- How many slots after the first one are tried before the way leaps. -/
def stride : Nat := 9

/-- The first free slot on the way of a word, from the slot `i` on. The slots of a stride are
tried one after the other, if they are all there. After fourteen leaps nothing is left of the
word, and the leaps go through all slots. -/
def freeSlot (slots : Array (Option Value)) : Nat → Nat → Nat → Nat
  | 0, _, i => i
  | leaps + 1, word, i =>
    let near := if i + stride < slots.size then List.range' i (stride + 1) else [i]
    match near.find? fun j => (slots.getD j none).isNone with
    | some j => j
    | none =>
      let word := word / 32
      freeSlot slots leaps word ((i * 5 + 1 + word) % slots.size)

/-- The slots with one more member. -/
def insertSlot (slots : Array (Option Value)) (member : Value) (residue : Int) :
    Array (Option Value) :=
  let word := wordOf residue
  slots.setIfInBounds (freeSlot slots (slots.size + 14) word (word % slots.size)) (some member)

/-- The members of a set in the order in which they are shown. -/
def slotOrder (members : List Value) : List Value :=
  match members.mapM residue? with
  | none => members
  | some residues =>
    let empty := Array.replicate (slotCount members.length) none
    let slots := (members.zip residues).foldl (fun s m => insertSlot s m.1 m.2) empty
    slots.toList.filterMap id

end CrossBuild.Value
