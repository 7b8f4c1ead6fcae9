/-! Case mapping of names: the part of the full mapping whose results are ASCII letters. -/

namespace LogCourier

/-- The upper-case form of a character wherever that form is ASCII, else the character itself. -/
def upperForm (c : Char) : List Char :=
  match c.toNat with
  -- Dotless i and long s have a plain capital, and the ligatures have several.
  | 0x131 => ['I']
  | 0x17f => ['S']
  | 0xdf => ['S', 'S']
  | 0xfb00 => ['F', 'F']
  | 0xfb01 => ['F', 'I']
  | 0xfb02 => ['F', 'L']
  | 0xfb03 => ['F', 'F', 'I']
  | 0xfb04 => ['F', 'F', 'L']
  | 0xfb05 => ['S', 'T']
  | 0xfb06 => ['S', 'T']
  | _ => [c.toUpper]

/-- The lower-case form of a character wherever that form is ASCII, else the character itself. -/
def lowerForm (c : Char) : Char :=
  -- The kelvin sign is the one character outside ASCII with an ASCII small letter.
  if c.toNat = 0x212a then 'k' else c.toLower

/-- A name as it is compared with upper-case names. -/
def upperName (text : List Char) : List Char :=
  text.flatMap upperForm

/-- A name as it is compared with lower-case names. -/
def lowerName (text : List Char) : List Char :=
  text.map lowerForm

end LogCourier
