import LogCourier.Event.Attributes
import LogCourier.Event.Failure
import LogCourier.Severity
import LogCourier.Time.Timestamp

/-! Events: what happened, how severe it is, when and where, with an error and attributes. -/

namespace LogCourier

/-- Where events come from; each part may be unknown. -/
structure Origin where
  sourceId : Option String
  appId : Option String
  serviceName : Option String
  deriving DecidableEq, Repr

namespace Origin

/-- An origin of which nothing is known. -/
def unknown : Origin := ⟨none, none, none⟩

instance : Inhabited Origin := ⟨unknown⟩

/-- The name under which people know an origin: the most specific part that is known. -/
def label (origin : Origin) : String :=
  ((origin.serviceName <|> origin.appId) <|> origin.sourceId).getD "-"

end Origin

/-- One log occurrence. -/
structure Event where
  timestamp : Timestamp
  severity : Severity
  message : String
  failure : Option Failure
  origin : Origin
  attributes : Attributes
  deriving DecidableEq

instance : Inhabited Event := ⟨⟨default, default, "", none, default, default⟩⟩

namespace Event

/-- Equality with the equality of doubles on the attributes. -/
def agrees (left right : Event) : Bool :=
  left.timestamp = right.timestamp && left.severity = right.severity &&
    left.message = right.message && left.failure = right.failure &&
    left.origin = right.origin && left.attributes.agrees right.attributes

/-- Equality of batches, event by event. -/
def batchesAgree (left right : List Event) : Bool :=
  left.length = right.length && (left.zip right).all fun pair => pair.1.agrees pair.2

/-- An event on the wire; what is absent or empty is left out. -/
def json (event : Event) : Json :=
  .object <|
    [("timestamp", .integer event.timestamp.millis), ("level", .text event.severity.name),
      ("message", .text event.message)] ++
      (event.failure.map fun failure => ("error", failure.json)).toList ++
      Failure.optionalText "sourceId" event.origin.sourceId ++
      Failure.optionalText "appId" event.origin.appId ++
      Failure.optionalText "serviceName" event.origin.serviceName ++
      (if event.attributes.isEmpty then [] else [("attributes", event.attributes.json)])

/-- The wire text of an event. -/
def wire (event : Event) : String :=
  event.json.render

end Event

namespace Severity

/-- Reads the name of a severity. -/
def readName (name : String) : Decoded Severity :=
  match ofName? name with
  | some level => .ok level
  | none => .error (.mismatch (.unknownVariant name (all.map Severity.name)))

/-- Reads a severity: its name, or an object with null under its name. -/
def read (depth : Nat) : Outline → Decoded Severity
  | .text literal => do readName (← literal.read)
  | .object members ending => do
    let _ ← enter depth
    match members with
    | [] => if ending = .cut then throw .truncated else throw .malformed
    | (.text key, value) :: rest =>
      let level ← readName (← key.read)
      match value with
      | .null => pure ()
      | other => other.reject "unit"
      -- Nothing but the closing bracket may follow, not even a comma.
      if rest.isEmpty then ending.expectLast else throw .malformed
      return level
    -- Only a string can name a severity, so what starts otherwise is refused at sight.
    | _ :: _ => throw .malformed
  | .broken fault => throw (.ofGlancedFault fault)
  | _ => throw .malformed

end Severity

namespace Timestamp

/-- Reads an instant from a number of milliseconds. -/
def read : Outline → Decoded Timestamp
  | .numeral literal => do
    match ← literal.read with
    | .integer millis => match ofMillis? millis with
      | some instant => return instant
      | none => throw (.mismatch (.illegalTimestamp millis))
    | number => throw (.mismatch (.invalidType number.found "a unix timestamp in milliseconds"))
  | other => other.reject "a unix timestamp in milliseconds"

end Timestamp

namespace Event

/-- The members of an event read so far. -/
structure Slots where
  timestamp : Option Timestamp
  severity : Option Severity
  message : Option String
  failure : Option (Option Failure)
  sourceId : Option (Option String)
  appId : Option (Option String)
  serviceName : Option (Option String)
  attributes : Option Attributes

/-- No member read yet. -/
def Slots.none : Slots := ⟨.none, .none, .none, .none, .none, .none, .none, .none⟩

/-- Reads one member of an event. -/
def readMember (depth : Nat) (slots : Slots) (name : String) (value : Outline) : Decoded Slots := do
  match name with
  | "timestamp" =>
    return { slots with timestamp := ← fillSlot name slots.timestamp (Timestamp.read value) }
  | "level" =>
    return { slots with severity := ← fillSlot name slots.severity (Severity.read depth value) }
  | "message" =>
    return { slots with message := ← fillSlot name slots.message (value.readText "a string") }
  | "error" =>
    return { slots with
      failure := ← fillSlot name slots.failure (value.readOptional (Failure.read depth)) }
  | "sourceId" =>
    return { slots with
      sourceId := ← fillSlot name slots.sourceId (Failure.readOptionalText value) }
  | "appId" =>
    return { slots with appId := ← fillSlot name slots.appId (Failure.readOptionalText value) }
  | "serviceName" =>
    return { slots with
      serviceName := ← fillSlot name slots.serviceName (Failure.readOptionalText value) }
  | "attributes" =>
    return { slots with
      attributes := ← fillSlot name slots.attributes (Attributes.read depth value) }
  -- Unknown members are skipped, as far as they can be read.
  | _ =>
    value.skip
    return slots

/-- What the members of an event amount to. -/
def Slots.finish (slots : Slots) : Decoded Event := do
  -- These three must be there, and all else may be absent.
  let timestamp ← requireSlot "timestamp" slots.timestamp
  let severity ← requireSlot "level" slots.severity
  let message ← requireSlot "message" slots.message
  return {
    timestamp, severity, message
    failure := slots.failure.getD .none
    origin := ⟨slots.sourceId.getD .none, slots.appId.getD .none, slots.serviceName.getD .none⟩
    attributes := slots.attributes.getD .empty }

/-- What is said of a list that is too short for an event. -/
def shape : String := "struct Event with 8 elements"

/-- Reads an event from an object, or from a list of its fields. -/
def read (depth : Nat) : Outline → Decoded Event
  | .object members ending => do
    let inner ← enter depth
    let slots ← Outline.foldMembers (readMember inner) ending Slots.none members
    slots.finish
  | .list items ending => do
    let inner ← enter depth
    let start : Positions := ⟨items, ending⟩
    -- As in an object, the first three must be there.
    let (timestamp, start) ← start.require 0 shape Timestamp.read
    let (severity, start) ← start.require 1 shape (Severity.read inner)
    let (message, start) ← start.require 2 shape (·.readText "a string")
    let (failure, start) ← start.next (·.readOptional (Failure.read inner))
    let (sourceId, start) ← start.next Failure.readOptionalText
    let (appId, start) ← start.next Failure.readOptionalText
    let (serviceName, start) ← start.next Failure.readOptionalText
    let (attributes, start) ← start.next (Attributes.read inner)
    start.finish
    return {
      timestamp, severity, message
      failure := failure.getD .none
      origin := ⟨sourceId.getD .none, appId.getD .none, serviceName.getD .none⟩
      attributes := attributes.getD .empty }
  | other => other.reject "struct Event"

/-- The event that a wire text stands for. -/
def parse (text : String) : Decoded Event :=
  decodeText read text

/-- The events that the text of a payload stands for. -/
def parseAll (text : String) : Decoded (List Event) :=
  decodeText (fun depth outline => outline.readList depth read) text

end Event

end LogCourier
