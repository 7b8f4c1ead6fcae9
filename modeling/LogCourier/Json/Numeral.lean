import LogCourier.Json.Literal
import LogCourier.Number.Digits

/-! Number literals as they stand in a text, and the integers or doubles they stand for. -/

namespace LogCourier

/-- A number literal that keeps to the grammar. -/
structure Numeral where
  negative : Bool
  whole : List Char
  /-- The digits after the point, which are at least one. -/
  fraction : Option (List Char)
  /-- Whether the exponent has a minus sign, and its digits. -/
  exponent : Option (Bool × List Char)
  deriving DecidableEq, Repr

/-- What a number literal stands for. -/
inductive Number where
  | integer (value : Int)
  | real (value : Float)

/-- The digits at the start of a text and the rest. -/
def spanDigits (text : List Char) : List Char × List Char :=
  (text.takeWhile isDigit, text.dropWhile isDigit)

/-- At least one digit must stand here; the fault tells whether the text went on. -/
def someDigits (text : List Char) : Except Fault (List Char × List Char) :=
  match text with
  | [] => .error .cutNumber
  | c :: _ => if isDigit c then .ok (spanDigits text) else .error .malformed

/-- The fraction at the start of a text, if a point stands there. -/
def scanFraction (text : List Char) : Except Fault (Option (List Char) × List Char) :=
  match text with
  | '.' :: rest => (someDigits rest).map fun (run, after) => (some run, after)
  | _ => .ok (none, text)

/-- The sign of an exponent and what follows it. -/
def scanSign (text : List Char) : Bool × List Char :=
  match text with
  | '-' :: rest => (true, rest)
  | '+' :: rest => (false, rest)
  | _ => (false, text)

/-- The exponent at the start of a text, if an `e` of either case stands there. -/
def scanExponent (text : List Char) : Except Fault (Option (Bool × List Char) × List Char) :=
  match text with
  | c :: rest =>
    if c = 'e' ∨ c = 'E' then
      let (minus, tail) := scanSign rest
      (someDigits tail).map fun (run, after) => (some (minus, run), after)
    else .ok (none, text)
  | [] => .ok (none, [])

/-- The whole part of a number, which has no zero before other digits. -/
def scanWhole (text : List Char) : Except Fault (List Char × List Char) :=
  match text with
  | '0' :: c :: rest => if isDigit c then .error .malformed else .ok (['0'], c :: rest)
  | _ => someDigits text

/-- Splits a text that starts with a digit or a minus sign into the number and the rest. -/
def scanNumeral (text : List Char) : Except Fault (Numeral × List Char) := do
  let (negative, unsigned) := match text with
    | '-' :: rest => (true, rest)
    | _ => (false, text)
  let (whole, afterWhole) ← scanWhole unsigned
  let (fraction, afterFraction) ← scanFraction afterWhole
  let (exponent, rest) ← scanExponent afterFraction
  return (⟨negative, whole, fraction, exponent⟩, rest)

/-- The largest unsigned integer of 64 bits. -/
def maxNatural : Nat := 18446744073709551615

/-- Adds digits to a significand while it stays within 64 bits; returns the digits left over. -/
def gather (significand : Nat) : List Char → Nat × List Char
  | [] => (significand, [])
  | c :: rest =>
    let next := 10 * significand + digitValue c
    if next ≤ maxNatural then gather next rest else (significand, c :: rest)

/-- A power of ten up to the largest that a double can hold. -/
def tenTo (power : Nat) : Float :=
  Float.ofScientific 1 false power

/-- A double times a power of ten: one product or quotient, more only below the smallest power. -/
def scaleByTen (value : Float) (power : Int) : Except Fault Float :=
  if value == 0 then .ok value
  else if 308 < power then .error .malformed
  else if 0 ≤ power then
    let product := value * tenTo power.toNat
    if product.isInf then .error .malformed else .ok product
  else if -308 ≤ power then .ok (value / tenTo (-power).toNat)
  else scaleByTen (value / tenTo 308) (power + 308)
termination_by (-power).toNat

namespace Numeral

/-- A double with the sign of the literal. -/
def signed (numeral : Numeral) (value : Float) : Float :=
  if numeral.negative then -value else value

/-- The number of a literal in scientific form, where excess digits only count as places. -/
def realValue (numeral : Numeral) : Except Fault Float :=
  let (head, excess) := gather 0 numeral.whole
  let fraction := numeral.fraction.getD []
  let (significand, unread) := gather head fraction
  let places : Int := excess.length - (fraction.length - unread.length : Nat)
  let value := (UInt64.ofNat significand).toFloat
  match numeral.exponent with
  | none => (scaleByTen value places).map numeral.signed
  | some (minus, run) =>
    let power := digitsValue 0 run
    -- An exponent past 31 bits is not computed with.
    if 2147483647 < power then
      if significand ≠ 0 ∧ minus = false then .error .malformed else .ok (numeral.signed 0)
    else
      (scaleByTen value (if minus then places - power else places + power)).map numeral.signed

/-- The number of a literal: an integer if it is written as one and fits 64 bits, else a double. -/
def value (numeral : Numeral) : Except Fault Number :=
  let magnitude := digitsValue 0 numeral.whole
  if numeral.fraction.isNone ∧ numeral.exponent.isNone ∧ magnitude ≤ maxNatural then
    if numeral.negative = false then .ok (.integer magnitude)
    -- Minus zero is a double, and so is what lies below the signed range.
    else if magnitude = 0 ∨ 9223372036854775808 < magnitude then
      .ok (.real (-(UInt64.ofNat magnitude).toFloat))
    else .ok (.integer (-(magnitude : Int)))
  else numeral.realValue.map .real

end Numeral

end LogCourier
