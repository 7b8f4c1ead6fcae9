import LogCourier.Json.Outline
import LogCourier.Json.Value

/-! Decoding outlines into values: the first problem from left to right is the one reported. -/

namespace LogCourier

/-- What a decoder can say against a well-formed value. -/
inductive Mismatch where
  | missingField (name : String)
  | duplicateField (name : String)
  | unknownVariant (found : String) (known : List String)
  | invalidType (found expected : String)
  | invalidLength (length : Nat) (expected : String)
  | illegalTimestamp (millis : Int)
  | noVariant (type : String)
  deriving DecidableEq, Repr

namespace Mismatch

/-- A name in code quotes. -/
def ticked (name : String) : String :=
  "\x60" ++ name ++ "\x60"

/-- The wording of a mismatch. -/
def message : Mismatch → String
  | missingField name => "missing field " ++ ticked name
  | duplicateField name => "duplicate field " ++ ticked name
  | unknownVariant found known =>
    "unknown variant " ++ ticked found ++ ", expected one of " ++
      String.intercalate ", " (known.map ticked)
  | invalidType found expected => "invalid type: " ++ found ++ ", expected " ++ expected
  | invalidLength length expected =>
    "invalid length " ++ String.ofList (digits length) ++ ", expected " ++ expected
  | illegalTimestamp millis =>
    "value is not a legal timestamp: " ++ String.ofList (integerDigits millis)
  | noVariant type => "data did not match any variant of untagged enum " ++ type

end Mismatch

/-- Why a text does not decode. -/
inductive DecodeError where
  /-- The text is no JSON text that the decoder accepts at this place. -/
  | malformed
  /-- The text ends too early. -/
  | truncated
  /-- The text is JSON, but not of the wanted shape. -/
  | mismatch (problem : Mismatch)
  deriving DecidableEq, Repr

namespace DecodeError

/-- How a reader judges a fault. -/
def ofFault : Fault → DecodeError
  | .malformed => malformed
  | .truncated | .cutWord | .cutNumber => truncated

/-- How a skipper judges a fault, who takes every number that does not go on for a wrong one. -/
def ofSkippedFault : Fault → DecodeError
  | .malformed | .cutNumber => malformed
  | .truncated | .cutWord => truncated

/-- How a reader judges a fault who only looks at the first character of a value. -/
def ofGlancedFault : Fault → DecodeError
  | .truncated => truncated
  | .malformed | .cutWord | .cutNumber => malformed

end DecodeError

/-- The result of decoding. -/
abbrev Decoded (α : Type) := Except DecodeError α

/-- How many levels of nesting a reader starts with; the last one is never entered. -/
def nestingLimit : Nat := 128

/-- Enters a list or an object. -/
def enter (depth : Nat) : Decoded Nat :=
  if depth ≤ 1 then .error .malformed else .ok (depth - 1)

namespace Ending

/-- The end of a list or an object after which nothing more is wanted and nothing more was read. -/
def expectClosed : Ending → Decoded Unit
  | closed => .ok ()
  | cut => .error .truncated
  | dangling => .error .truncated
  | stray => .error .malformed

/-- The end of a list after its last wanted item, where a comma is already one too many. -/
def expectLast : Ending → Decoded Unit
  | closed => .ok ()
  | cut => .error .truncated
  | dangling => .error .malformed
  | stray => .error .malformed

end Ending

namespace Literal

/-- The string of a literal, for a decoder. -/
def read (literal : Literal) : Decoded String :=
  literal.value.mapError DecodeError.ofFault

end Literal

namespace Numeral

/-- The number of a literal, for a decoder. -/
def read (numeral : Numeral) : Decoded Number :=
  numeral.value.mapError DecodeError.ofFault

end Numeral

namespace Number

/-- A number as a mismatch names it. -/
def found : Number → String
  | integer value => "integer " ++ Mismatch.ticked (String.ofList (integerDigits value))
  | real value =>
    "floating point " ++ Mismatch.ticked (String.ofList (NumberLayout.wire.text value))

end Number

namespace Outline

/-- A value as a mismatch names it, once enough of it is read. -/
def found : Outline → Decoded String
  | null => .ok "null"
  | bool true => .ok ("boolean " ++ Mismatch.ticked "true")
  | bool false => .ok ("boolean " ++ Mismatch.ticked "false")
  | numeral value => value.read.map Number.found
  | text value => value.read.map fun string => "string " ++ quoted string
  | list _ _ => .ok "sequence"
  | object _ _ => .ok "map"
  | broken fault => .error (.ofFault fault)

/-- A value of the wrong kind, unless it is not even a value. -/
def reject (expected : String) (outline : Outline) : Decoded α := do
  throw (.mismatch (.invalidType (← outline.found) expected))

/-- A string. -/
def readText (expected : String) : Outline → Decoded String
  | text value => value.read
  | other => other.reject expected

/-- A value that may be null. -/
def readOptional (read : Outline → Decoded α) : Outline → Decoded (Option α)
  | null => .ok none
  | other => (read other).map some

/-- A list of values of one kind. -/
def readList (depth : Nat) (read : Nat → Outline → Decoded α) : Outline → Decoded (List α)
  | list items ending => do
    let inner ← enter depth
    let values ← items.mapM (read inner)
    ending.expectClosed
    return values
  | other => other.reject "a sequence"

/-- The name in the place of a key, which must be a string. -/
def readKey : Outline → Decoded String
  | text value => value.read
  | _ => .error .malformed

/-- Reads the members of an object one after another into a state. -/
def foldMembers (read : σ → String → Outline → Decoded σ) (ending : Ending) :
    σ → List (Outline × Outline) → Decoded σ
  | state, [] => do
    ending.expectClosed
    return state
  | state, (key, value) :: rest => do
    let name ← readKey key
    let next ← read state name value
    foldMembers read ending next rest

mutual

/-- The first fault that a skipper meets; it pairs no surrogates and minds no nesting. -/
def skip : Outline → Decoded Unit
  | null => .ok ()
  | bool _ => .ok ()
  | numeral _ => .ok ()
  | text value => match value.fault with
    | none => .ok ()
    | some fault => .error (.ofFault fault)
  | list items ending => do
    skipItems items
    ending.expectClosed
  | object members ending => do
    skipMembers members
    ending.expectClosed
  | broken fault => .error (.ofSkippedFault fault)

/-- Skips the items of a list. -/
def skipItems : List Outline → Decoded Unit
  | [] => .ok ()
  | item :: rest => do
    skip item
    skipItems rest

/-- Skips the members of an object. -/
def skipMembers : List (Outline × Outline) → Decoded Unit
  | [] => .ok ()
  | (key, value) :: rest => do
    match key with
    | text literal => match literal.fault with
      | none => pure ()
      | some fault => throw (.ofFault fault)
    | _ => throw .malformed
    skip value
    skipMembers rest

end

mutual

/-- The first fault that a reader meets who keeps the whole value, whatever its kind. -/
def readWhole : Nat → Outline → Decoded Unit
  | _, null => .ok ()
  | _, bool _ => .ok ()
  | _, numeral value => value.read.map fun _ => ()
  | _, text value => value.read.map fun _ => ()
  | depth, list items ending => do
    let inner ← enter depth
    readItems inner items
    ending.expectClosed
  | depth, object members ending => do
    let inner ← enter depth
    readMembers inner members
    ending.expectClosed
  | _, broken fault => .error (.ofFault fault)

/-- Reads the items of a list for their faults. -/
def readItems : Nat → List Outline → Decoded Unit
  | _, [] => .ok ()
  | depth, item :: rest => do
    readWhole depth item
    readItems depth rest

/-- Reads the members of an object for their faults. -/
def readMembers : Nat → List (Outline × Outline) → Decoded Unit
  | _, [] => .ok ()
  | depth, (key, value) :: rest => do
    let _ ← readKey key
    readWhole depth value
    readMembers depth rest

end

end Outline

/-- Decodes a text that holds one value and nothing else but gaps. -/
def decodeText (read : Nat → Outline → Decoded α) (text : String) : Decoded α := do
  let (outline, rest) := Outline.ofChars text.toList
  let value ← read nestingLimit outline
  -- A value that was read in full leaves a rest; a decoder that stopped early has failed before.
  if (rest.map skipGap).getD [] = [] then return value else throw .malformed

end LogCourier
