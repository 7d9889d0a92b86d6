/-!
# Shortest decimals of binary fractions

A finite binary64 value is `significand * 2 ^ exponent` with whole numbers.
`Binary64.shortest` names it by the fewest decimal digits that still lie closer
to it than to any other binary64 value; of several such numbers it takes the
nearest, and the even one on a tie. Everything is computed exactly with natural
numbers.
-/

namespace ProcessEngine

/-- A nonnegative finite binary64 value, with the gap to its neighbours. -/
structure Binary64 where
  /-- The whole significand. -/
  significand : Nat
  /-- The power of two that scales it. -/
  exponent : Int
  /-- Whether the neighbour below is only half a gap away. -/
  closeBelow : Bool
deriving Repr, DecidableEq

/-- A decimal `digits * 10 ^ exponent`. -/
structure Decimal where
  /-- The digits as a whole number. -/
  digits : Nat
  /-- The power of ten that scales them. -/
  exponent : Int
deriving Repr, DecidableEq

namespace Binary64

/-- Whether the sign bit is set. -/
def isNegative (bits : UInt64) : Bool := bits >>> 63 == 1

/-- Whether the bits stand for a number, and not for an infinity or for no number. -/
def isFinite (bits : UInt64) : Bool := (bits >>> 52) &&& 0x7ff != 0x7ff

/-- The magnitude that finite bits stand for. -/
def ofBits (bits : UInt64) : Binary64 :=
  let field := ((bits >>> 52) &&& 0x7ff).toNat
  let fraction := (bits &&& 0xfffffffffffff).toNat
  if field = 0 then ⟨fraction, -1074, false⟩
  else ⟨0x10000000000000 + fraction, (field : Int) - 1075, fraction == 0 && 1 < field⟩

/-- Four times the value over a common denominator, as `(numerator, denominator)`; the quarter
of a gap is then `scale` of the numerator. -/
def quarters (value : Binary64) : Nat × Nat × Nat :=
  if 0 ≤ value.exponent then
    let scale := Nat.pow 2 value.exponent.toNat
    (4 * value.significand * scale, scale, 4)
  else
    (4 * value.significand, 1, 4 * Nat.pow 2 (-value.exponent).toNat)

/-- The least power of ten, from the given one upward, that exceeds a ratio. -/
def powerAbove (numerator denominator : Nat) : Nat -> Int -> Int
  | 0, power => power
  | fuel + 1, power =>
    let below :=
      if 0 ≤ power then numerator < denominator * Nat.pow 10 power.toNat
      else numerator * Nat.pow 10 (-power).toNat < denominator
    if below then power else powerAbove numerator denominator fuel (power + 1)

/-- The decimal with the given number of digits that is nearest to the value among those that
read back as it, if there is one. -/
def onGrid (value : Binary64) (top : Int) (places : Nat) : Option Decimal :=
  let (numerator, quarter, denominator) := value.quarters
  let power := top - places
  let scaledNumerator := if 0 ≤ power then numerator else numerator * Nat.pow 10 (-power).toNat
  let scaledQuarter := if 0 ≤ power then quarter else quarter * Nat.pow 10 (-power).toNat
  let unit := if 0 ≤ power then denominator * Nat.pow 10 power.toNat else denominator
  let even := value.significand % 2 = 0
  let reach := if value.closeBelow then scaledQuarter else 2 * scaledQuarter
  let down := scaledNumerator / unit
  let gapDown := scaledNumerator - down * unit
  let gapUp := (down + 1) * unit - scaledNumerator
  let downFits := 0 < down ∧ (gapDown < reach ∨ (even ∧ gapDown = reach))
  let upFits := gapUp < 2 * scaledQuarter ∨ (even ∧ gapUp = 2 * scaledQuarter)
  if downFits ∧ (¬ upFits ∨ gapDown < gapUp ∨ (gapDown = gapUp ∧ down % 2 = 0)) then
    some ⟨down, power⟩
  else if upFits then some ⟨down + 1, power⟩
  else none

/-- The first grid, from the coarsest, that holds a decimal which reads back. -/
def firstGrid (value : Binary64) (top : Int) : Nat -> Nat -> Decimal
  | 0, places => ⟨0, top - places⟩
  | fuel + 1, places =>
    match value.onGrid top places with
    | some decimal => decimal
    | none => firstGrid value top fuel (places + 1)

/-- The fewest digits that read back as the value. -/
def shortest (value : Binary64) : Decimal :=
  if value.significand = 0 then ⟨0, 0⟩
  else
    let (numerator, _, denominator) := value.quarters
    let top := powerAbove numerator denominator 700 (-330)
    firstGrid value top 20 0

end Binary64

end ProcessEngine
