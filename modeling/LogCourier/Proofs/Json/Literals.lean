import LogCourier.Json.Decoder
import LogCourier.Proofs.Json.Grammar

/-! Strings are written as strings of the grammar and read back. -/

namespace LogCourier

/-- The controls that have no escape of one letter, which are written as units. -/
def isSpelled (c : Char) : Bool :=
  c.toNat < 32 && !(['\x08', '\x0c', '\n', '\r', '\t'].contains c)

/-- The piece that a written character is scanned as. -/
def Piece.ofChar (c : Char) : Piece :=
  if isSpelled c then .unit c.toNat else .char c

/-- The literal that a written string is scanned as. -/
def Literal.ofString (value : String) : Literal :=
  ⟨value.toList.map Piece.ofChar, none⟩

/-- A digit of a number below sixteen has that value. -/
private theorem hexValue?_hexDigit :
    ∀ value < 16, hexValue? (hexDigit value) = some value := by
  -- Ten digits and six letters, each read in its own range.
  decide

/-- The four digits of a control stand for its code. -/
private theorem unitValue?_control {c : Char} (control : c.toNat < 32) :
    unitValue? '0' '0' (hexDigit (c.toNat / 16)) (hexDigit (c.toNat % 16)) = some c.toNat := by
  -- The first two digits are zeros, and the others are the halves of the code.
  have zero : hexValue? '0' = some 0 := by decide
  have high := hexValue?_hexDigit (c.toNat / 16) (by omega)
  have low := hexValue?_hexDigit (c.toNat % 16) (by omega)
  simp only [unitValue?, zero, high, low, Option.bind_eq_bind, Option.bind_some, pure]
  congr 1
  omega

/-- The escape of a character spells one piece. -/
private theorem Piece.spelled_ofChar (c : Char) : Piece.Spelled (.ofChar c) (Json.escaped c) := by
  -- The cases are those in which the writer chose the escape.
  unfold Json.escaped
  split
  case h_8 quote backslash backspace formFeed newline carriage tab =>
    split
    · next control =>
      have spelled : isSpelled c = true := by simp_all [isSpelled]
      rw [Piece.ofChar, if_pos spelled]
      exact .unit (unitValue?_control control)
    · next above =>
      have unspelled : isSpelled c = false := by simp [isSpelled]; omega
      rw [Piece.ofChar, unspelled]
      exact .plain (Nat.not_lt.1 above) quote backslash
  all_goals exact .short rfl

/-- The escapes of characters spell a piece each. -/
private theorem Piece.runSpelled_escaped (chars : List Char) :
    Piece.RunSpelled (chars.map Piece.ofChar) (chars.flatMap Json.escaped) := by
  -- Induction on the characters, each of which is spelled by itself.
  induction chars with
  | nil => exact .nil
  | cons c rest ih => exact .cons (spelled_ofChar c) ih

/-- A written string is a string of the grammar. -/
theorem Literal.spelled_ofString (value : String) :
    (Literal.ofString value).Spelled (Json.literal value) :=
  .intro (Piece.runSpelled_escaped value.toList)

/-- A unit that is no half of a pair stands for its character. -/
private theorem joinPieces_unit {code : Nat} {rest : List Piece} (single : code < 0xd800) :
    joinPieces none (.unit code :: rest) = (joinPieces none rest).map (Char.ofNat code :: ·) := by
  -- Halves of pairs have larger codes.
  have notTrailing : isTrailingUnit code = false := by simp [isTrailingUnit]; omega
  have notLeading : isLeadingUnit code = false := by simp [isLeadingUnit]; omega
  cases rest <;> simp [joinPieces, notTrailing, notLeading]

/-- The pieces of a written string join to its characters. -/
private theorem joinPieces_ofChar (chars : List Char) :
    joinPieces none (chars.map Piece.ofChar) = .ok chars := by
  -- No spelled control is half of a pair, so each piece stands for itself.
  induction chars with
  | nil => rfl
  | cons c rest ih =>
    rw [List.map_cons, Piece.ofChar]
    split
    · next spelled =>
      have control : c.toNat < 32 := by simp_all [isSpelled]
      rw [joinPieces_unit (by omega), ih, Char.ofNat_toNat]
      rfl
    · rw [joinPieces, ih]
      rfl

/-- A written string reads back. -/
theorem Literal.read_ofString (value : String) : (Literal.ofString value).read = .ok value := by
  simp only [Literal.read, Literal.value, Literal.ofString, joinPieces_ofChar]
  exact congrArg Except.ok (String.ofList_toList)

end LogCourier
