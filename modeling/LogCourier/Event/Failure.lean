import LogCourier.Json.Decoder

/-! What an event tells about an error: its message, its kind, its causes and where it arose. -/

namespace LogCourier

/-- An error that an event reports. -/
structure Failure where
  message : String
  kind : Option String
  causes : List String
  stack : List String
  deriving DecidableEq, Repr

namespace Failure

/-- An error of which only the message is known. -/
def ofMessage (message : String) : Failure :=
  ⟨message, none, [], []⟩

/-- An error with the errors that caused it, the outermost first. -/
def ofChain (message : String) (causes : List String) : Failure :=
  ⟨message, none, causes, []⟩

/-- The error with a kind. -/
def withKind (failure : Failure) (kind : String) : Failure :=
  { failure with kind := some kind }

/-- The error with these frames as its stack. -/
def withFrames (failure : Failure) (frames : List String) : Failure :=
  { failure with stack := frames }

/-- A member that is left out when its value is absent. -/
def optionalText (name : String) (value : Option String) : List (String × Json) :=
  (value.map fun text => (name, Json.text text)).toList

/-- A member that is left out when its list is empty. -/
def nonemptyTexts (name : String) (values : List String) : List (String × Json) :=
  if values.isEmpty then [] else [(name, .list (values.map .text))]

/-- An error on the wire. -/
def json (failure : Failure) : Json :=
  .object <|
    ("message", .text failure.message) ::
      (optionalText "kind" failure.kind ++ nonemptyTexts "causes" failure.causes ++
        nonemptyTexts "stack" failure.stack)

/-- The members of an error read so far. -/
structure Slots where
  message : Option String
  kind : Option (Option String)
  causes : Option (List String)
  stack : Option (List String)

/-- No member read yet. -/
def Slots.none : Slots := ⟨.none, .none, .none, .none⟩

end Failure

/-- Fills a slot that must still be empty; a second member of a name is refused before its value. -/
def fillSlot (name : String) (slot : Option α) (read : Decoded α) : Decoded (Option α) :=
  match slot with
  | some _ => .error (.mismatch (.duplicateField name))
  | none => read.map some

/-- The value of a slot that must have been filled. -/
def requireSlot (name : String) : Option α → Decoded α
  | some value => .ok value
  | none => .error (.mismatch (.missingField name))

namespace Failure

/-- A list of strings. -/
def readTexts (depth : Nat) (outline : Outline) : Decoded (List String) :=
  outline.readList depth fun _ item => item.readText "a string"

/-- An optional string. -/
def readOptionalText (outline : Outline) : Decoded (Option String) :=
  outline.readOptional fun value => value.readText "a string"

/-- Reads one member of an error. -/
def readMember (depth : Nat) (slots : Slots) (name : String) (value : Outline) : Decoded Slots := do
  match name with
  | "message" =>
    return { slots with message := ← fillSlot name slots.message (value.readText "a string") }
  | "kind" => return { slots with kind := ← fillSlot name slots.kind (readOptionalText value) }
  | "causes" => return { slots with causes := ← fillSlot name slots.causes (readTexts depth value) }
  | "stack" => return { slots with stack := ← fillSlot name slots.stack (readTexts depth value) }
  -- Unknown members are skipped, as far as they can be read.
  | _ =>
    value.skip
    return slots

/-- What the members of an error amount to. -/
def Slots.finish (slots : Slots) : Decoded Failure := do
  -- Only the message must be there.
  let message ← requireSlot "message" slots.message
  return ⟨message, slots.kind.getD .none, slots.causes.getD [], slots.stack.getD []⟩

end Failure

/-- The items of a list that are read as the fields of a record, in order. -/
structure Positions where
  rest : List Outline
  ending : Ending

namespace Positions

/-- Reads the next field, if the list goes on. -/
def next (positions : Positions) (read : Outline → Decoded α) :
    Decoded (Option α × Positions) :=
  match positions.rest with
  | item :: rest => (read item).map fun value => (some value, { positions with rest })
  -- A list that closes early leaves the field absent.
  | [] => positions.ending.expectClosed.map fun _ => (none, positions)

/-- Reads a field that must not be missing. -/
def require (positions : Positions) (index : Nat) (expected : String)
    (read : Outline → Decoded α) : Decoded (α × Positions) := do
  match ← positions.next read with
  | (some value, rest) => return (value, rest)
  | (none, _) => throw (.mismatch (.invalidLength index expected))

/-- After the last field the list must close. -/
def finish (positions : Positions) : Decoded Unit :=
  if positions.rest.isEmpty then positions.ending.expectLast else .error .malformed

end Positions

namespace Failure

/-- Reads an error from an object, or from a list of its fields. -/
def read (depth : Nat) : Outline → Decoded Failure
  | .object members ending => do
    let inner ← enter depth
    let slots ← Outline.foldMembers (readMember inner) ending Slots.none members
    slots.finish
  | .list items ending => do
    let inner ← enter depth
    let start : Positions := ⟨items, ending⟩
    let (message, start) ←
      start.require 0 "struct ErrorInfo with 4 elements" (·.readText "a string")
    let (kind, start) ← start.next readOptionalText
    let (causes, start) ← start.next (readTexts inner)
    let (stack, start) ← start.next (readTexts inner)
    start.finish
    return ⟨message, kind.getD .none, causes.getD [], stack.getD []⟩
  | other => other.reject "struct ErrorInfo"

end Failure

end LogCourier
