import LogCourier.Proofs.Json.Doubles
import LogCourier.Proofs.Json.Literals
import LogCourier.Proofs.Json.Recognition

/-!
Whatever is written as JSON is spelled as the grammar has it, whichever texts and doubles it holds,
so that a scanner reads it to its end and nothing else is left over.
-/

namespace LogCourier

namespace Outline

/-- The outline of a written double: a number, or null where JSON has none. -/
def ofDouble (value : Float) : Outline :=
  (scan 1 (NumberLayout.wire.text value)).1

/-- A written double is a value of the grammar. -/
theorem spelled_ofDouble (value : Float) :
    Spelled (ofDouble value) (NumberLayout.wire.text value) := by
  unfold ofDouble
  rcases NumberLayout.wire_text_spelled value with ⟨numeral, spelled⟩ | null
  · -- The outline is the number that the text spells.
    have scanned := scan_numeral spelled Halts.nil 0
    rw [List.append_nil] at scanned
    rw [scanned]
    exact .numeral spelled
  · rw [null]
    exact .null

end Outline

namespace Json

mutual

/-- What a written value is scanned as. -/
def outline : Json → Outline
  | .null => .null
  | .bool value => .bool value
  | .integer value => .numeral (.ofInt value)
  | .number value => .ofDouble value
  | .text value => .text (.ofString value)
  | .list items => .list (outlines items) .closed
  | .object members => .object (memberOutlines members) .closed

/-- What written items are scanned as. -/
def outlines : List Json → List Outline
  | [] => []
  | item :: rest => outline item :: outlines rest

/-- What written members are scanned as. -/
def memberOutlines : List (String × Json) → List (Outline × Outline)
  | [] => []
  | (key, value) :: rest => (.text (.ofString key), outline value) :: memberOutlines rest

end

/-- No white space is a gap. -/
private theorem gap_nil : Gap [] := by
  intro c member
  cases member

/-- A written member is one of the grammar if its value is. -/
private theorem memberSpelled (key : String) {value : Json}
    (spelled : Outline.Spelled value.outline value.chars) :
    Outline.MemberSpelled (.text (.ofString key), value.outline)
      (literal key ++ ':' :: value.chars) := by
  -- No gaps are written around keys and colons.
  have member := Outline.MemberSpelled.intro gap_nil (Literal.spelled_ofString key) gap_nil gap_nil
    spelled gap_nil
  simpa using member

mutual

/-- A written value is one of the grammar. -/
theorem spelled (json : Json) : Outline.Spelled json.outline json.chars := by
  -- Recursion on the value, together with lists and objects.
  match json with
  | .null => exact .null
  | .bool true => exact .yes
  | .bool false => exact .no
  | .integer value => exact .numeral (Numeral.spelled_ofInt value)
  | .number value => exact Outline.spelled_ofDouble value
  | .text value => exact .text (Literal.spelled_ofString value)
  | .list [] => exact .emptyList gap_nil
  | .list (item :: others) => exact .list (itemsSpelled (item :: others) (List.cons_ne_nil _ _))
  | .object [] => exact .emptyObject gap_nil
  | .object (member :: others) =>
    exact .object (membersSpelled (member :: others) (List.cons_ne_nil _ _))

/-- Written items are items of the grammar. -/
theorem itemsSpelled (items : List Json) (nonempty : items ≠ []) :
    Outline.ItemsSpelled (outlines items) (itemsChars items) := by
  -- Every item but the last one is followed by a comma and the others.
  match items with
  | [] => exact absurd rfl nonempty
  | [item] =>
    have last := Outline.ItemsSpelled.last gap_nil (spelled item) gap_nil
    simpa [outlines, itemsChars] using last
  | item :: next :: others =>
    have more := Outline.ItemsSpelled.more gap_nil (spelled item) gap_nil
      (itemsSpelled (next :: others) (List.cons_ne_nil _ _))
    simpa [outlines, itemsChars] using more

/-- Written members are members of the grammar. -/
theorem membersSpelled (members : List (String × Json)) (nonempty : members ≠ []) :
    Outline.MembersSpelled (memberOutlines members) (membersChars members) := by
  -- Members are put together like items.
  match members with
  | [] => exact absurd rfl nonempty
  | [(key, value)] => exact .last (memberSpelled key (spelled value))
  | (key, value) :: next :: others =>
    have more := Outline.MembersSpelled.more (memberSpelled key (spelled value))
      (membersSpelled (next :: others) (List.cons_ne_nil _ _))
    simpa [memberOutlines, membersChars] using more

end

/-- A written value is a whole text. -/
theorem spelledAlone (json : Json) : json.outline.SpelledAlone json.render.toList := by
  rw [render, String.toList_ofList]
  exact json.spelled.alone

/-- A decoder finds in the text of a value what it finds in the outline of that value. -/
theorem decodeText_render (json : Json) (read : Nat → Outline → Decoded α) :
    decodeText read json.render = read nestingLimit json.outline :=
  decodeText_spelledAlone json.spelledAlone read

end Json

end LogCourier
