import LogCourier.Proofs.Json.Scanning

/-! Decoders on the outlines of written values: strings, lists and objects read back. -/

namespace LogCourier

/-- A reader with levels to spare enters. -/
theorem enter_of_lt {depth : Nat} (room : 1 < depth) : enter depth = .ok (depth - 1) :=
  if_neg (by omega)

namespace Outline

/-- A written string reads back. -/
theorem readText_text (expected value : String) :
    (Json.text value).outline.readText expected = .ok value := by
  rw [Json.outline, readText, Literal.read_ofString]

/-- Items that read back one by one read back as a whole. -/
private theorem mapM_outlines {read : Outline → Decoded α} {write : α → Json} {values : List α}
    (reads : ∀ value ∈ values, read (write value).outline = .ok value) :
    (Json.outlines (values.map write)).mapM read = .ok values := by
  -- Item by item.
  induction values with
  | nil => rfl
  | cons value rest ih =>
    have first := reads value List.mem_cons_self
    have others := ih fun other member => reads other (List.mem_cons_of_mem _ member)
    rw [List.map_cons, Json.outlines, List.mapM_cons, first, others]
    rfl

/-- A written list reads back if its items do. -/
theorem readList_list {read : Nat → Outline → Decoded α} {write : α → Json} {values : List α}
    {depth : Nat} (room : 1 < depth)
    (reads : ∀ value ∈ values, read (depth - 1) (write value).outline = .ok value) :
    (Json.list (values.map write)).outline.readList depth read = .ok values := by
  rw [Json.outline, readList, enter_of_lt room]
  -- The depth is entered once for the list, and each item is read inside it.
  simp only [bind, Except.bind, mapM_outlines reads]
  rfl

/-- Reads a written member through what its value is scanned as. -/
def readWritten (read : σ → String → Outline → Decoded σ) (held : σ) (member : String × Json) :
    Decoded σ :=
  read held member.1 member.2.outline

/-- The name of a member, if its key stands for a string. -/
def name? (member : Outline × Outline) : Option String :=
  (readKey member.1).toOption

/-- A written member has the name that it was given. -/
theorem name?_written (member : String × Json) :
    name? (.text (.ofString member.1), member.2.outline) = some member.1 := by
  rw [name?, readKey, Literal.read_ofString]
  rfl

/-- Written members are outlined one by one. -/
theorem memberOutlines_eq_map (members : List (String × Json)) :
    Json.memberOutlines members =
      members.map fun member => (.text (.ofString member.1), member.2.outline) := by
  -- Induction on the members.
  induction members with
  | nil => rfl
  | cons member rest ih => rw [Json.memberOutlines, ih, List.map_cons]

/-- Written members have the names that they were given. -/
theorem map_name?_memberOutlines (members : List (String × Json)) :
    (Json.memberOutlines members).map name? = members.map fun member => some member.1 := by
  rw [memberOutlines_eq_map, List.map_map]
  exact List.map_congr_left fun member _ => name?_written member

/-- The members of a written object are read one after another. -/
theorem foldMembers_memberOutlines (read : σ → String → Outline → Decoded σ) (held : σ)
    (members : List (String × Json)) :
    foldMembers read .closed held (Json.memberOutlines members) =
      members.foldlM (readWritten read) held := by
  -- Every key is a string, and the object is closed.
  induction members generalizing held with
  | nil => rfl
  | cons member rest ih =>
    rcases member with ⟨name, value⟩
    rw [Json.memberOutlines, foldMembers, readKey, Literal.read_ofString, List.foldlM_cons]
    simp only [bind, Except.bind, ih]
    rfl

/-- Members that are read one run after the other. -/
theorem foldlM_append_ok {step : σ → String × Json → Decoded σ} {first second : σ}
    {last : Decoded σ} {front back : List (String × Json)}
    (fronts : front.foldlM step first = .ok second)
    (backs : back.foldlM step second = last) : (front ++ back).foldlM step first = last := by
  -- The second run goes on with what the first one has read.
  rw [List.foldlM_append, fronts]
  exact backs

/-- A member that is left out when its value is absent is read when it is there. -/
theorem foldlM_optional {step : σ → String × Json → Decoded σ} {name : String} {write : α → Json}
    {held : σ} (after : Option α → σ) (absent : after none = held)
    (reads : ∀ value, step held (name, write value) = .ok (after (some value)))
    (value : Option α) :
    (value.map fun present => (name, write present)).toList.foldlM step held =
      .ok (after value) := by
  -- Absent values write no member, and leave what is held alone.
  cases value with
  | none => exact congrArg Except.ok absent.symm
  | some present =>
    rw [Option.map_some, Option.toList_some, List.foldlM_cons, reads]
    rfl

end Outline

end LogCourier
