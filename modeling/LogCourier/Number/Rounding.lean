/-! Quotients rounded to nearest, and the nearest binary number with a double's precision. -/

namespace LogCourier

/-- Which neighbour a magnitude halfway between two goes to. -/
inductive Tie where
  | toEven
  | awayFromZero
  deriving DecidableEq, Repr

/-- The neighbour that a halfway magnitude goes to, given the lower one. -/
def Tie.settle : Tie → Nat → Nat
  | .toEven, whole => whole + whole % 2
  | .awayFromZero, whole => whole + 1

/-- A quotient rounded to the nearest whole number; a half goes to the even neighbour. -/
def roundDiv (num den : Nat) : Nat :=
  let whole := num / den
  let rest := num % den
  if 2 * rest < den then whole
  else if den < 2 * rest then whole + 1
  else Tie.toEven.settle whole

/-- The number `significand * 2 ^ exponent`. -/
structure Binary where
  significand : Nat
  exponent : Int
  deriving DecidableEq, Repr

namespace Binary

/-- The numerator of a binary number as a fraction. -/
def num (value : Binary) : Nat :=
  value.significand * Nat.pow 2 value.exponent.toNat

/-- The denominator of a binary number as a fraction. -/
def den (value : Binary) : Nat :=
  Nat.pow 2 (-value.exponent).toNat

/-- The quotient `num / den` rounded at the binary place `exponent`. -/
def roundedAt (num den : Nat) (exponent : Int) : Binary :=
  ⟨roundDiv (num * Nat.pow 2 (-exponent).toNat) (den * Nat.pow 2 exponent.toNat), exponent⟩

/-- The number with at most 53 significant bits that is nearest to `num / den`. -/
def nearest (num den : Nat) : Binary :=
  if num = 0 then ⟨0, 0⟩
  else
    -- The estimate is the place of the leading bit or the place above it.
    let leading : Int := num.log2 - den.log2
    let fits := den * Nat.pow 2 leading.toNat ≤ num * Nat.pow 2 (-leading).toNat
    roundedAt num den ((if fits then leading else leading - 1) - 52)

end Binary

/-- A tie goes to one of the two neighbours, whichever way it is settled. -/
theorem Tie.settle_bounds (tie : Tie) (whole : Nat) :
    whole ≤ tie.settle whole ∧ tie.settle whole ≤ whole + 1 := by
  -- Each way adds one or the parity of the lower neighbour.
  cases tie <;> simp only [settle] <;> omega

end LogCourier
