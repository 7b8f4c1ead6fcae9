/-! Whole numbers in decimal digits, written without leading zeros and read back from any digits. -/

namespace LogCourier

/-- The decimal digit of a number below ten. -/
def digitChar (value : Nat) : Char :=
  Char.ofNat (48 + value)

/-- The decimal digits of a number, most significant first. -/
def digits (value : Nat) : List Char :=
  if value < 10 then [digitChar value] else digits (value / 10) ++ [digitChar (value % 10)]

/-- The digits of an integer, after a minus sign if it is negative. -/
def integerDigits (value : Int) : List Char :=
  if value < 0 then '-' :: digits value.natAbs else digits value.natAbs

/-- The ASCII decimal digits. -/
def isDigit (c : Char) : Bool :=
  '0' ≤ c && c ≤ '9'

/-- The number that a digit stands for. -/
def digitValue (c : Char) : Nat :=
  c.toNat - 48

/-- The number that a run of digits stands for, continuing from the digits before it. -/
def digitsValue (start : Nat) (run : List Char) : Nat :=
  run.foldl (fun value c => 10 * value + digitValue c) start

/-- Digits filled up with zeros on the left to a least width. -/
def padZeros (width : Nat) (run : List Char) : List Char :=
  List.replicate (width - run.length) '0' ++ run

/-- Why a text is no whole number of a given range. -/
inductive DigitsFault where
  | missing | foreign | tooLarge
  deriving DecidableEq, Repr

namespace DigitsFault

/-- What diagnostics say of a text that is no whole number. -/
def message : DigitsFault → String
  | missing => "cannot parse integer from empty string"
  | foreign => "invalid digit found in string"
  | tooLarge => "number too large to fit in target type"

end DigitsFault

/-- Reads digits up to a bound; a foreign character counts only if the digits before it fit. -/
def readBounded (bound : Nat) : Nat → List Char → Except DigitsFault Nat
  | value, [] => .ok value
  | value, c :: rest =>
    -- Scaling is checked after the digit is looked at, adding it last.
    if isDigit c then
      let next := 10 * value + digitValue c
      if next ≤ bound then readBounded bound next rest else .error .tooLarge
    else .error .foreign

/-- A whole number of at most `bound`, with an optional plus sign. -/
def parseBounded (bound : Nat) (text : List Char) : Except DigitsFault Nat :=
  match text with
  | [] => .error .missing
  | ['+'] => .error .foreign
  | '+' :: rest => readBounded bound 0 rest
  | _ => readBounded bound 0 text

/-- The digit of a number below ten stands for that number. -/
theorem digitValue_digitChar {value : Nat} (small : value < 10) :
    digitValue (digitChar value) = value := by
  -- There are ten cases.
  match value with
  | 0 | 1 | 2 | 3 | 4 | 5 | 6 | 7 | 8 | 9 => decide
  | n + 10 => omega

/-- Written digits read back. -/
theorem digitsValue_digits (value : Nat) : digitsValue 0 (digits value) = value := by
  -- The digits of the tenth part come first, and the last digit is added to ten times their value.
  induction value using Nat.strongRecOn with
  | ind value ih =>
    rw [digits]
    split
    · next small => simp [digitsValue, digitValue_digitChar small]
    · next large =>
      have front := ih (value / 10) (by omega)
      simp only [digitsValue] at front ⊢
      simp only [List.foldl_append, front, List.foldl_cons, List.foldl_nil,
        digitValue_digitChar (Nat.mod_lt value (by decide))]
      omega

end LogCourier
