import LogCourier.Number.Digits
import LogCourier.Number.Rounding

/-! The shortest decimal number that reads back as a given double, found on exact fractions. -/

namespace LogCourier

/-- The sign bit of a double. -/
def isNegativeFloat (value : Float) : Bool :=
  value.toBits >>> 63 == 1

/-- The bit above the stored fraction of a double, two to the power of 52. -/
def implicitBit : Nat := 4503599627370496

/-- A double's magnitude as a binary number, if it is finite. -/
def magnitude? (value : Float) : Option Binary :=
  let bits := value.toBits.toNat
  let biased : Nat := bits / implicitBit % 2048
  let fraction : Nat := bits % implicitBit
  if biased = 2047 then none
  -- Subnormal numbers have no implicit bit and share the least exponent.
  else if biased = 0 then some ⟨fraction, -1074⟩
  else some ⟨implicitBit + fraction, (biased : Int) - 1075⟩

/-- Digits times a power of ten, `digits * 10 ^ exponent`. -/
structure Scientific where
  digits : Nat
  exponent : Int
  deriving DecidableEq, Repr

namespace Scientific

/-- Whether the distance between two fractions stays within a third, ends included on request. -/
def within (closed : Bool) (distance half : Nat) : Bool :=
  if closed then distance ≤ half else distance < half

/-- The nearer grid point around a fraction among those that lie in its rounding interval. -/
def gridPoint? (tie : Tie) (closed : Bool) (num den below above : Nat) (place : Int) :
    Option Nat :=
  -- All distances are brought to the same denominator, so that whole numbers compare.
  let up := Nat.pow 10 (-place).toNat
  let step := den * Nat.pow 10 place.toNat
  let floor := num * up / step
  let down := num * up - floor * step
  let rise := (floor + 1) * step - num * up
  let low := within closed down (below * up)
  let high := within closed rise (above * up)
  match low, high with
  | true, true =>
    if down < rise then some floor
    else if rise < down then some (floor + 1)
    else some (tie.settle floor)
  | true, false => some floor
  | false, true => some (floor + 1)
  | false, false => none

/-- Tries the grids of ever more digits until one has a point in the rounding interval. -/
def search (tie : Tie) (closed : Bool) (num den below above : Nat) : Nat → Int → Scientific
  | 0, place => ⟨num * Nat.pow 10 (-place).toNat / (den * Nat.pow 10 place.toNat), place⟩
  | tries + 1, place =>
    match gridPoint? tie closed num den below above place with
    | some point => ⟨point, place⟩
    | none => search tie closed num den below above tries (place - 1)

/-- The exponent of ten of the first digit of a positive fraction. -/
def leadingPlace (num den : Nat) : Int :=
  -- Scaling by a power below every double's reciprocal keeps the whole part positive.
  ((LogCourier.digits (num * Nat.pow 10 400 / den)).length : Int) - 401

/-- The shortest decimal number in the rounding interval of a positive binary number. -/
def shortest (tie : Tie) (value : Binary) : Scientific :=
  -- Four units are one unit in the last place, so that the half gaps are whole.
  let num := 4 * value.num
  let den := 4 * value.den
  let unit := Nat.pow 2 value.exponent.toNat
  let narrow := value.significand = implicitBit ∧ -1074 < value.exponent
  let below := if narrow then unit else 2 * unit
  let closed := value.significand % 2 = 0
  search tie closed num den below (2 * unit) 17 (leadingPlace num den)

/-- The same number with the zeros at the end of its digits moved into the exponent. -/
def trimmed : Nat → Scientific → Scientific
  | 0, value => value
  | tries + 1, value =>
    if value.digits ≠ 0 ∧ value.digits % 10 = 0 then
      trimmed tries ⟨value.digits / 10, value.exponent + 1⟩
    else value

end Scientific

end LogCourier
