import LogCourier.Number.Shortest

/-! How doubles are laid out in text: on the wire, in lines for people, and with fixed places. -/

namespace LogCourier

/-- What a number format decides beyond taking the fewest digits that read back. -/
structure NumberLayout where
  /-- Which of two equally short numbers is written when both are equally near. -/
  tie : Tie
  /-- The range of leading places written without an exponent; without a range all are. -/
  positional : Option (Int × Int)
  /-- What follows a number that has no fraction. -/
  wholeMark : List Char
  /-- The texts of not-a-number, of infinity, and of negative infinity. -/
  oddities : List Char × List Char × List Char

namespace NumberLayout

/-- Wire numbers keep a point or an exponent, and what JSON cannot hold is null. -/
def wire : NumberLayout :=
  ⟨.toEven, some (-5, 15), ['.', '0'], ("null".toList, "null".toList, "null".toList)⟩

/-- Numbers for people are written out in full and as briefly as possible. -/
def plain : NumberLayout :=
  ⟨.awayFromZero, none, [], ("NaN".toList, "inf".toList, "-inf".toList)⟩

/-- Digits around a point, where the first digit stands at the power of ten `lead`. -/
def written (layout : NumberLayout) (run : List Char) (lead : Int) : List Char :=
  if lead < 0 then '0' :: '.' :: List.replicate (-lead - 1).toNat '0' ++ run
  else
    let whole := lead.toNat + 1
    if run.length ≤ whole then run ++ List.replicate (whole - run.length) '0' ++ layout.wholeMark
    else run.take whole ++ '.' :: run.drop whole

/-- Digits with a point after the first one, and an exponent with its sign. -/
def scientific (run : List Char) (lead : Int) : List Char :=
  let tail := run.drop 1
  run.take 1 ++ (if tail.isEmpty then [] else '.' :: tail) ++
    ['e', if lead < 0 then '-' else '+'] ++ digits lead.natAbs

/-- A finite magnitude in the chosen layout. -/
def magnitude (layout : NumberLayout) (value : Binary) : List Char :=
  if value.significand = 0 then '0' :: layout.wholeMark
  else
    let short := Scientific.trimmed 17 (Scientific.shortest layout.tie value)
    let run := digits short.digits
    let lead := short.exponent + run.length - 1
    match layout.positional with
    | some (low, high) =>
      if low ≤ lead ∧ lead ≤ high then layout.written run lead else scientific run lead
    | none => layout.written run lead

/-- A double in the chosen layout. -/
def text (layout : NumberLayout) (value : Float) : List Char :=
  match magnitude? value with
  | some size => (if isNegativeFloat value then ['-'] else []) ++ layout.magnitude size
  | none =>
    if value.isNaN then layout.oddities.1
    else if isNegativeFloat value then layout.oddities.2.2
    else layout.oddities.2.1

end NumberLayout

/-- A non-negative double with a fixed number of decimal places; a half goes to the even digit. -/
def fixedPlaces (places : Nat) (value : Float) : List Char :=
  match magnitude? value with
  | none => NumberLayout.plain.text value
  | some size =>
    let scaled := roundDiv (size.num * Nat.pow 10 places) size.den
    digits (scaled / Nat.pow 10 places) ++
      (if places = 0 then [] else '.' :: padZeros places (digits (scaled % Nat.pow 10 places)))

end LogCourier
