import LogCourier.Event.Basic
import LogCourier.Proofs.Json.Integers

/-! Numbers, dates and JSON are written without control characters, whatever they tell of. -/

namespace LogCourier

/-- Every character of a text is a space or above it, so none is a control. -/
def Printable (run : List Char) : Prop :=
  ∀ c ∈ run, 32 ≤ c.toNat

instance (run : List Char) : Decidable (Printable run) :=
  decidable_of_iff (run.all fun c => 32 ≤ c.toNat) (by simp [Printable])

namespace Printable

/-- The empty text is printable. -/
@[simp] theorem nil : Printable [] := by
  simp [Printable]

/-- A text is printable when its first character and the others are. -/
@[simp] theorem cons_iff {c : Char} {run : List Char} :
    Printable (c :: run) ↔ 32 ≤ c.toNat ∧ Printable run := by
  simp [Printable]

/-- A text is printable when both its parts are. -/
@[simp] theorem append_iff {front back : List Char} :
    Printable (front ++ back) ↔ Printable front ∧ Printable back := by
  simp [Printable, or_imp, forall_and]

/-- Zeros are printable, however many. -/
theorem zeros (count : Nat) : Printable (List.replicate count '0') := by
  intro c member
  rw [List.eq_of_mem_replicate member]
  decide

/-- A part of a printable text is printable. -/
theorem of_subset {part run : List Char} (printable : Printable run) (inside : part ⊆ run) :
    Printable part :=
  fun c member => printable c (inside member)

/-- What is printable piece by piece is printable. -/
theorem flatMap {run : List α} {piece : α → List Char}
    (pieces : ∀ item ∈ run, Printable (piece item)) : Printable (run.flatMap piece) := by
  -- A character of the whole comes from one of the pieces.
  intro c member
  obtain ⟨item, inside, within⟩ := List.mem_flatMap.1 member
  exact pieces item inside c within

end Printable

/-- Written numbers are printable. -/
theorem printable_digits (value : Nat) : Printable (digits value) := by
  intro c member
  -- Digits start at the code of zero.
  have digit := isDigit_of_mem_digits value c member
  simp only [isDigit, Bool.and_eq_true, decide_eq_true_eq] at digit
  have low : '0'.toNat ≤ c.toNat := digit.1
  exact Nat.le_trans (by decide) low

/-- Integers are printable with their sign. -/
theorem printable_integerDigits (value : Int) : Printable (integerDigits value) := by
  -- A sign or none stands before the digits.
  rw [integerDigits]
  split
  · exact Printable.cons_iff.2 ⟨by decide, printable_digits _⟩
  · exact printable_digits _

/-- Filling up with zeros keeps a number printable. -/
theorem printable_padZeros (width value : Nat) : Printable (padZeros width (digits value)) :=
  Printable.append_iff.2 ⟨Printable.zeros _, printable_digits value⟩

namespace NumberLayout

/-- The texts that a layout brings along are printable. -/
structure Plain (layout : NumberLayout) : Prop where
  wholeMark : Printable layout.wholeMark
  nan : Printable layout.oddities.1
  infinity : Printable layout.oddities.2.1
  negativeInfinity : Printable layout.oddities.2.2

/-- The wire layout brings along printable texts. -/
theorem Plain.wire : NumberLayout.wire.Plain := by
  constructor <;> decide

/-- The layout for people brings along printable texts. -/
theorem Plain.plain : NumberLayout.plain.Plain := by
  constructor <;> decide

variable {layout : NumberLayout}

/-- Digits around a point are printable. -/
theorem Plain.written (neat : layout.Plain) {run : List Char} (printable : Printable run)
    (lead : Int) : Printable (layout.written run lead) := by
  unfold NumberLayout.written
  split
  · -- The number is below one, and zeros stand between the point and its digits.
    exact Printable.append_iff.2 ⟨by simp [Printable.zeros], printable⟩
  · dsimp only
    split
    · -- Zeros fill up what the digits leave of the whole part.
      simp [printable, Printable.zeros, neat.wholeMark]
    · -- The point stands among the digits.
      have front := printable.of_subset (List.take_subset (lead.toNat + 1) run)
      have back := printable.of_subset (List.drop_subset (lead.toNat + 1) run)
      simp [front, back]

/-- Digits with an exponent are printable. -/
theorem printable_scientific {run : List Char} (printable : Printable run) (lead : Int) :
    Printable (scientific run lead) := by
  -- The first digit and the others are part of the run.
  have first := printable.of_subset (List.take_subset 1 run)
  have others := printable.of_subset (List.drop_subset 1 run)
  have tail : Printable (if (run.drop 1).isEmpty then [] else '.' :: run.drop 1) := by
    split
    · exact Printable.nil
    · exact Printable.cons_iff.2 ⟨by decide, others⟩
  have sign : Printable ['e', if lead < 0 then '-' else '+'] := by
    split <;> decide
  exact Printable.append_iff.2
    ⟨Printable.append_iff.2 ⟨Printable.append_iff.2 ⟨first, tail⟩, sign⟩, printable_digits _⟩

/-- Finite magnitudes are printable. -/
theorem Plain.magnitude (neat : layout.Plain) (value : Binary) :
    Printable (layout.magnitude value) := by
  unfold NumberLayout.magnitude
  split
  · exact Printable.cons_iff.2 ⟨by decide, neat.wholeMark⟩
  · -- The digits are the same with and without an exponent.
    have run := printable_digits
      (Scientific.trimmed 17 (Scientific.shortest layout.tie value)).digits
    dsimp only
    split
    · split
      · exact neat.written run _
      · exact printable_scientific run _
    · exact neat.written run _

/-- Doubles are printable, finite or not. -/
theorem Plain.text (neat : layout.Plain) (value : Float) : Printable (layout.text value) := by
  unfold NumberLayout.text
  -- A finite value has digits, and each of the others has its own name.
  split
  · next size _ =>
    refine Printable.append_iff.2 ⟨?_, neat.magnitude size⟩
    split <;> decide
  · split
    · exact neat.nan
    · split
      · exact neat.negativeInfinity
      · exact neat.infinity

end NumberLayout

/-- Years are printable, with a sign where they have one. -/
theorem printable_yearText (year : Int) : Printable (CivilDate.yearText year) := by
  -- Only the years from 0 to 9999 have no sign.
  have run := printable_padZeros 4 year.natAbs
  unfold CivilDate.yearText
  dsimp only
  split
  · exact Printable.cons_iff.2 ⟨by decide, run⟩
  · split
    · exact Printable.cons_iff.2 ⟨by decide, run⟩
    · exact run

/-- Dates and times of day are printable. -/
theorem printable_timestamp (instant : Timestamp) : Printable instant.text.toList := by
  -- The date and the time are numbers with marks between them.
  simp [Timestamp.text, printable_yearText, printable_padZeros]

namespace Json

/-- A hexadecimal digit is printable. -/
theorem printable_hexDigit : ∀ value < 16, 32 ≤ (hexDigit value).toNat := by
  decide

/-- Every character is printable inside a string literal, the controls as their escapes. -/
theorem printable_escaped (c : Char) : Printable (escaped c) := by
  unfold escaped
  split
  -- The characters with an escape of one letter, and the two that only need a backslash.
  iterate 7 decide
  -- All other characters below the space become four hexadecimal digits.
  split
  · next control =>
    have high := printable_hexDigit (c.toNat / 16) (by omega)
    have low := printable_hexDigit (c.toNat % 16) (by omega)
    simp [high, low]
  · next above => simpa using above

/-- String literals are printable, whatever the string. -/
theorem printable_literal (value : String) : Printable (literal value) := by
  have inside : Printable (value.toList.flatMap escaped) :=
    Printable.flatMap fun c _ => printable_escaped c
  simp [literal, inside]

mutual

/-- JSON is printable, whatever its texts hold. -/
theorem printable_chars : (value : Json) → Printable value.chars
  | .null => by decide
  | .bool true => by decide
  | .bool false => by decide
  | .integer value => printable_integerDigits value
  | .number value => NumberLayout.Plain.wire.text value
  | .text value => printable_literal value
  | .list items => by simp [chars, printable_itemsChars items]
  | .object members => by simp [chars, printable_membersChars members]

/-- The items of a list are printable with the commas between them. -/
theorem printable_itemsChars : (items : List Json) → Printable (itemsChars items)
  | [] => Printable.nil
  | [item] => printable_chars item
  | item :: next :: rest => by
    simp [itemsChars, printable_chars item, printable_itemsChars (next :: rest)]

/-- The members of an object are printable with the commas between them. -/
theorem printable_membersChars :
    (members : List (String × Json)) → Printable (membersChars members)
  | [] => Printable.nil
  | [(key, value)] => by simp [membersChars, printable_literal key, printable_chars value]
  | (key, value) :: next :: rest => by
    simp [membersChars, printable_literal key, printable_chars value,
      printable_membersChars (next :: rest)]

end

end Json

/-- The wire text of an event is printable, whatever its texts hold. -/
theorem Event.printable_wire (event : Event) : Printable event.wire.toList := by
  simpa [Event.wire, Json.render] using Json.printable_chars event.json

end LogCourier
