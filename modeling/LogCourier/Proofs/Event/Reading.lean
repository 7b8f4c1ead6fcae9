import LogCourier.Event.Basic
import LogCourier.Proofs.Json.Reading

/-! Events that were written read back: every part of an event from what the wire says of it. -/

namespace LogCourier

/-- A severity reads back from its name. -/
theorem Severity.read_name (level : Severity) (depth : Nat) :
    Severity.read depth (Json.text level.name).outline = .ok level := by
  simp [Json.outline, Severity.read, Literal.read_ofString, readName, ofName?_name, bind,
    Except.bind]

/-- An instant reads back from its milliseconds. -/
theorem Timestamp.read_millis (instant : Timestamp) :
    Timestamp.read (Json.integer instant.millis).outline = .ok instant := by
  have ⟨millis, earliest, latest⟩ := instant
  -- The milliseconds of an instant are within the range that is read.
  have number := Numeral.read_ofInt millis (by omega) (by omega)
  have legal : ofMillis? millis = some ⟨millis, earliest, latest⟩ := dif_pos ⟨earliest, latest⟩
  simp [Json.outline, Timestamp.read, number, legal, bind, Except.bind, pure, Except.pure]

namespace Field

/-- Whether a value is a double, which JSON cannot always hold. -/
def isFloat : Field → Bool
  | float _ => true
  | _ => false

/-- A value that is no double reads back. -/
theorem read_json {field : Field} (whole : field.isFloat = false) (depth : Nat) :
    Field.read depth field.json.outline = .ok field := by
  -- Every kind is written differently, so that no two kinds are mixed up.
  cases field with
  | text value => simp [Field.json, Json.outline, Field.read, Literal.read_ofString, Except.map]
  | int value =>
    have low : Int64.minValue.toInt ≤ value.toInt := value.minValue_le_toInt
    have high : value.toInt ≤ Int64.maxValue.toInt := value.toInt_le
    have number := Numeral.read_ofInt value.toInt low (Int.le_trans high (by decide))
    have inside : ofNumber (.integer value.toInt) = int value := by
      rw [ofNumber, if_pos ⟨low, high⟩, Int64.ofInt_toInt]
    simp [Field.json, Json.outline, Field.read, number, Except.map, inside]
  | float value => cases whole
  | bool value => rfl
  | null => rfl

end Field

/-- A key above all others is put at the end. -/
theorem insertEntry_above {key : String} {value : Field} {entries : List (String × Field)}
    (above : ∀ entry ∈ entries, entry.1 < key) :
    insertEntry key value entries = entries ++ [(key, value)] := by
  -- The key is compared with each key before it.
  induction entries with
  | nil => rfl
  | cons entry rest ih =>
    rcases entry with ⟨other, held⟩
    have smaller : other < key := above _ List.mem_cons_self
    have notBefore : ¬ key < other := String.lt_asymm smaller
    have different : key ≠ other := (String.ne_of_lt smaller).symm
    rw [insertEntry, if_neg notBefore, if_neg different,
      ih fun entry member => above entry (List.mem_cons_of_mem _ member)]
    rfl

namespace Attributes

/-- Whether no value under a key is a double. -/
def isFloatless (attributes : Attributes) : Bool :=
  attributes.entries.all fun entry => !entry.2.isFloat

/-- No value of attributes without doubles is one. -/
private theorem isFloat_of_mem {attributes : Attributes} (floatless : attributes.isFloatless = true)
    {entry : String × Field} (member : entry ∈ attributes.entries) : entry.2.isFloat = false := by
  simpa using List.all_eq_true.1 floatless entry member

/-- Entries that go on where the held ones end are read behind them. -/
private theorem foldlM_entries {attributes : Attributes} (floatless : attributes.isFloatless = true)
    (depth : Nat) (held : Attributes) (rest : List (String × Field))
    (whole : attributes.entries = held.entries ++ rest) :
    rest.foldlM (fun (held : Attributes) entry => do
      return held.insert entry.1 (← Field.read depth entry.2.json.outline)) held =
        (.ok attributes : Decoded Attributes) := by
  -- The keys increase, so each entry goes behind all that are held.
  induction rest generalizing held with
  | nil =>
    rw [List.append_nil] at whole
    exact congrArg Except.ok (ext whole.symm)
  | cons entry rest ih =>
    have ordered := whole ▸ attributes.ascending
    have above : ∀ other ∈ held.entries, other.1 < entry.1 := fun other member =>
      (List.pairwise_append.1 ordered).2.2 other member entry List.mem_cons_self
    have next : (held.insert entry.1 entry.2).entries = held.entries ++ [entry] :=
      insertEntry_above above
    have value : Field.read depth entry.2.json.outline = .ok entry.2 :=
      Field.read_json (isFloat_of_mem floatless (by simp [whole])) depth
    rw [List.foldlM_cons, value]
    exact ih (held.insert entry.1 entry.2) (by rw [whole, next, List.append_assoc]; rfl)

/-- Attributes without doubles read back. -/
theorem read_json {attributes : Attributes} (floatless : attributes.isFloatless = true)
    {depth : Nat} (room : 1 < depth) :
    Attributes.read depth attributes.json.outline = .ok attributes := by
  -- The entries are in order already, so that each is put behind those that were read before it.
  have entries := foldlM_entries floatless (depth - 1) empty attributes.entries rfl
  rw [json, Json.outline, Attributes.read, enter_of_lt room]
  simp only [bind, Except.bind, Outline.foldMembers_memberOutlines, List.foldlM_map]
  exact entries

end Attributes

/-- An empty slot is filled with what is read. -/
private theorem fillSlot_none (name : String) {read : Decoded α} {value : α}
    (reads : read = .ok value) : fillSlot name none read = .ok (some value) := by
  rw [fillSlot, reads]
  rfl

/-- A value that might be absent is known to be so, or known with its presence. -/
private theorem getD_map_some (value : Option α) : (value.map some).getD none = value := by
  cases value <;> rfl

namespace Failure

/-- A list of strings reads back. -/
private theorem readTexts_list (values : List String) {depth : Nat} (room : 1 < depth) :
    readTexts depth (Json.list (values.map .text)).outline = .ok values :=
  Outline.readList_list room fun value _ => Outline.readText_text "a string" value

/-- A present string reads back where it might be absent. -/
theorem readOptionalText_text (value : String) :
    readOptionalText (Json.text value).outline = .ok (some value) := by
  -- A string is not null, not even an empty one.
  have read := Outline.readText_text "a string" value
  rw [Json.outline] at read ⊢
  rw [readOptionalText, Outline.readOptional, read]
  · rfl
  · simp

/-- A list that is left out when it is empty. -/
private def nonempty? (values : List String) : Option (List String) :=
  if values.isEmpty then none else some values

/-- A list that was left out is the empty one. -/
private theorem getD_nonempty? (values : List String) : (nonempty? values).getD [] = values := by
  cases values <;> rfl

/-- A list of strings on the wire is left out when it is empty. -/
private theorem nonemptyTexts_eq (name : String) (values : List String) :
    nonemptyTexts name values =
      ((nonempty? values).map fun held => (name, Json.list (held.map .text))).toList := by
  cases values <;> rfl

section

variable {depth : Nat} {held : Slots}

/-- Each member of an error is read into the slot of its name. -/
private theorem readMember_eq (depth : Nat) (held : Slots) (value : Outline) :
    readMember depth held "message" value =
      (fillSlot "message" held.message (value.readText "a string")).bind
        (fun read => .ok { held with message := read }) ∧
    readMember depth held "kind" value =
      (fillSlot "kind" held.kind (readOptionalText value)).bind
        (fun read => .ok { held with kind := read }) ∧
    readMember depth held "causes" value =
      (fillSlot "causes" held.causes (readTexts depth value)).bind
        (fun read => .ok { held with causes := read }) ∧
    readMember depth held "stack" value =
      (fillSlot "stack" held.stack (readTexts depth value)).bind
        (fun read => .ok { held with stack := read }) :=
  ⟨rfl, rfl, rfl, rfl⟩

/-- The kind of an error is read into its slot. -/
private theorem foldlM_kind (kind : Option String) (unread : held.kind = none) :
    (optionalText "kind" kind).foldlM (Outline.readWritten (readMember depth)) held =
      .ok { held with kind := kind.map some } := by
  -- Nothing is written for an error without a kind, and then the slot stays unread.
  refine Outline.foldlM_optional (fun kind => { held with kind := kind.map some }) ?_ ?_ kind
  · rw [Option.map_none, ← unread]
  · intro value
    simp only [Outline.readWritten, readMember_eq, unread,
      fillSlot_none "kind" (readOptionalText_text value)]
    rfl

/-- The causes of an error are read into their slot. -/
private theorem foldlM_causes (room : 1 < depth) (causes : List String)
    (unread : held.causes = none) :
    (nonemptyTexts "causes" causes).foldlM (Outline.readWritten (readMember depth)) held =
      .ok { held with causes := nonempty? causes } := by
  rw [nonemptyTexts_eq]
  -- An empty list is not written, and is what an unread slot stands for.
  refine Outline.foldlM_optional (fun causes => { held with causes }) ?_ ?_ (nonempty? causes)
  · rw [← unread]
  · intro values
    simp only [Outline.readWritten, readMember_eq, unread,
      fillSlot_none "causes" (readTexts_list values room)]
    rfl

/-- The stack of an error is read into its slot. -/
private theorem foldlM_stack (room : 1 < depth) (stack : List String) (unread : held.stack = none) :
    (nonemptyTexts "stack" stack).foldlM (Outline.readWritten (readMember depth)) held =
      .ok { held with stack := nonempty? stack } := by
  rw [nonemptyTexts_eq]
  -- An empty stack is left out in the same way.
  refine Outline.foldlM_optional (fun stack => { held with stack }) ?_ ?_ (nonempty? stack)
  · rw [← unread]
  · intro values
    simp only [Outline.readWritten, readMember_eq, unread,
      fillSlot_none "stack" (readTexts_list values room)]
    rfl

end

/-- What is known of an error once all its members are read. -/
private def slots (failure : Failure) : Slots :=
  ⟨some failure.message, failure.kind.map some, nonempty? failure.causes, nonempty? failure.stack⟩

/-- What is known then amounts to the error. -/
private theorem finish_slots (failure : Failure) : failure.slots.finish = .ok failure := by
  simp only [Slots.finish, slots, requireSlot, bind, Except.bind, getD_map_some, getD_nonempty?]
  rfl

/-- An error reads back. -/
theorem read_json (failure : Failure) {depth : Nat} (room : 2 < depth) :
    Failure.read depth failure.json.outline = .ok failure := by
  rcases failure with ⟨message, kind, causes, stack⟩
  -- The message comes first, and the other members only if there is something to tell.
  have inner : 1 < depth - 1 := by omega
  let first : Slots := { Slots.none with message := some message }
  have required : [("message", .text message)].foldlM
      (Outline.readWritten (readMember (depth - 1))) Slots.none = .ok first := by
    simp only [List.foldlM_cons, Outline.readWritten, readMember_eq, Slots.none,
      fillSlot_none "message" (Outline.readText_text "a string" message)]
    rfl
  -- Each member leaves the slots of the later ones empty.
  have filled := Outline.foldlM_append_ok required <| Outline.foldlM_append_ok
    (Outline.foldlM_append_ok (foldlM_kind kind rfl) (foldlM_causes inner causes rfl))
    (foldlM_stack inner stack rfl)
  rw [json, Json.outline, Failure.read, enter_of_lt (by omega)]
  simp only [bind, Except.bind, Outline.foldMembers_memberOutlines]
  rw [← List.singleton_append, filled]
  exact finish_slots ⟨message, kind, causes, stack⟩

end Failure

namespace Event

/-- Whether no attribute of an event is a double. -/
def isFloatless (event : Event) : Bool :=
  event.attributes.isFloatless

/-- A present error reads back where it might be absent. -/
private theorem readOptional_failure (failure : Failure) {depth : Nat} (room : 2 < depth) :
    failure.json.outline.readOptional (Failure.read depth) = .ok (some failure) := by
  -- An object is not null.
  have read := failure.read_json room
  rw [Failure.json, Json.outline] at read ⊢
  rw [Outline.readOptional, read]
  · rfl
  · simp

/-- Attributes that are left out when there are none. -/
private def nonempty? (attributes : Attributes) : Option Attributes :=
  if attributes.isEmpty then none else some attributes

/-- Attributes that were left out are empty. -/
private theorem getD_nonempty? (attributes : Attributes) :
    (nonempty? attributes).getD .empty = attributes := by
  rcases attributes with ⟨entries, ascending⟩
  cases entries <;> rfl

section

variable {depth : Nat} {held : Slots}

/-- Each member of an event is read into the slot of its name. -/
private theorem readMember_eq (depth : Nat) (held : Slots) (value : Outline) :
    readMember depth held "timestamp" value =
      (fillSlot "timestamp" held.timestamp (Timestamp.read value)).bind
        (fun read => .ok { held with timestamp := read }) ∧
    readMember depth held "level" value =
      (fillSlot "level" held.severity (Severity.read depth value)).bind
        (fun read => .ok { held with severity := read }) ∧
    readMember depth held "message" value =
      (fillSlot "message" held.message (value.readText "a string")).bind
        (fun read => .ok { held with message := read }) ∧
    readMember depth held "error" value =
      (fillSlot "error" held.failure (value.readOptional (Failure.read depth))).bind
        (fun read => .ok { held with failure := read }) ∧
    readMember depth held "sourceId" value =
      (fillSlot "sourceId" held.sourceId (Failure.readOptionalText value)).bind
        (fun read => .ok { held with sourceId := read }) ∧
    readMember depth held "appId" value =
      (fillSlot "appId" held.appId (Failure.readOptionalText value)).bind
        (fun read => .ok { held with appId := read }) ∧
    readMember depth held "serviceName" value =
      (fillSlot "serviceName" held.serviceName (Failure.readOptionalText value)).bind
        (fun read => .ok { held with serviceName := read }) ∧
    readMember depth held "attributes" value =
      (fillSlot "attributes" held.attributes (Attributes.read depth value)).bind
        (fun read => .ok { held with attributes := read }) :=
  ⟨rfl, rfl, rfl, rfl, rfl, rfl, rfl, rfl⟩

/-- The error of an event is read into its slot. -/
private theorem foldlM_error (room : 2 < depth) (failure : Option Failure)
    (unread : held.failure = none) :
    (failure.map fun failure => ("error", failure.json)).toList.foldlM
      (Outline.readWritten (readMember depth)) held =
        .ok { held with failure := failure.map some } := by
  -- An event without an error writes none.
  refine Outline.foldlM_optional (fun failure => { held with failure := failure.map some }) ?_ ?_
    failure
  · rw [Option.map_none, ← unread]
  · intro value
    simp only [Outline.readWritten, readMember_eq, unread,
      fillSlot_none "error" (readOptional_failure value room)]
    rfl

/-- The source of an event is read into its slot. -/
private theorem foldlM_sourceId (sourceId : Option String) (unread : held.sourceId = none) :
    (Failure.optionalText "sourceId" sourceId).foldlM
      (Outline.readWritten (readMember depth)) held =
        .ok { held with sourceId := sourceId.map some } := by
  -- What is not known of an event is not written, and its slot stays unread.
  refine Outline.foldlM_optional (fun text => { held with sourceId := text.map some }) ?_ ?_
    sourceId
  · rw [Option.map_none, ← unread]
  · intro value
    simp only [Outline.readWritten, readMember_eq, unread,
      fillSlot_none "sourceId" (Failure.readOptionalText_text value)]
    rfl

/-- The application of an event is read into its slot. -/
private theorem foldlM_appId (appId : Option String) (unread : held.appId = none) :
    (Failure.optionalText "appId" appId).foldlM (Outline.readWritten (readMember depth)) held =
      .ok { held with appId := appId.map some } := by
  -- As for the source.
  refine Outline.foldlM_optional (fun text => { held with appId := text.map some }) ?_ ?_ appId
  · rw [Option.map_none, ← unread]
  · intro value
    simp only [Outline.readWritten, readMember_eq, unread,
      fillSlot_none "appId" (Failure.readOptionalText_text value)]
    rfl

/-- The service of an event is read into its slot. -/
private theorem foldlM_serviceName (serviceName : Option String)
    (unread : held.serviceName = none) :
    (Failure.optionalText "serviceName" serviceName).foldlM
      (Outline.readWritten (readMember depth)) held =
        .ok { held with serviceName := serviceName.map some } := by
  -- As for the source.
  refine Outline.foldlM_optional (fun text => { held with serviceName := text.map some }) ?_ ?_
    serviceName
  · rw [Option.map_none, ← unread]
  · intro value
    simp only [Outline.readWritten, readMember_eq, unread,
      fillSlot_none "serviceName" (Failure.readOptionalText_text value)]
    rfl

/-- The attributes of an event are read into their slot. -/
private theorem foldlM_attributes (room : 1 < depth) {attributes : Attributes}
    (floatless : attributes.isFloatless = true) (unread : held.attributes = none) :
    (if attributes.isEmpty then [] else [("attributes", attributes.json)]).foldlM
      (Outline.readWritten (readMember depth)) held =
        .ok { held with attributes := nonempty? attributes } := by
  -- Without entries the attributes are left out.
  unfold nonempty?
  split
  · rw [← unread]
    rfl
  · simp only [List.foldlM_cons, Outline.readWritten, readMember_eq, unread,
      fillSlot_none "attributes" (Attributes.read_json floatless room)]
    rfl

end

/-- What is known of an event once all its members are read. -/
private def slots (event : Event) : Slots where
  timestamp := some event.timestamp
  severity := some event.severity
  message := some event.message
  failure := event.failure.map some
  sourceId := event.origin.sourceId.map some
  appId := event.origin.appId.map some
  serviceName := event.origin.serviceName.map some
  attributes := nonempty? event.attributes

/-- What is known then amounts to the event. -/
private theorem finish_slots (event : Event) : event.slots.finish = .ok event := by
  simp only [Slots.finish, slots, requireSlot, bind, Except.bind, getD_map_some, getD_nonempty?]
  rfl

/-- An event without doubles reads back. -/
theorem read_json {event : Event} (floatless : event.isFloatless = true) {depth : Nat}
    (room : 3 < depth) : Event.read depth event.json.outline = .ok event := by
  rcases event with ⟨timestamp, severity, message, failure, ⟨sourceId, appId, serviceName⟩,
    attributes⟩
  have inner : 2 < depth - 1 := by omega
  let first : Slots := { Slots.none with
    timestamp := some timestamp, severity := some severity, message := some message }
  have required : [("timestamp", .integer timestamp.millis), ("level", .text severity.name),
      ("message", .text message)].foldlM (Outline.readWritten (readMember (depth - 1)))
        Slots.none = .ok first := by
    simp only [List.foldlM_cons, Outline.readWritten, readMember_eq, Slots.none, bind, Except.bind,
      fillSlot_none "timestamp" timestamp.read_millis,
      fillSlot_none "level" (severity.read_name (depth - 1)),
      fillSlot_none "message" (Outline.readText_text "a string" message)]
    rfl
  -- Each member leaves the slots of the later ones empty.
  have filled := Outline.foldlM_append_ok (Outline.foldlM_append_ok (Outline.foldlM_append_ok
    (Outline.foldlM_append_ok (Outline.foldlM_append_ok required
      (foldlM_error inner failure rfl)) (foldlM_sourceId sourceId rfl)) (foldlM_appId appId rfl))
        (foldlM_serviceName serviceName rfl)) (foldlM_attributes (by omega) floatless rfl)
  rw [json, Json.outline, Event.read, enter_of_lt (by omega)]
  simp only [bind, Except.bind, Outline.foldMembers_memberOutlines]
  rw [filled]
  exact finish_slots ⟨timestamp, severity, message, failure, ⟨sourceId, appId, serviceName⟩,
    attributes⟩

end Event

end LogCourier
